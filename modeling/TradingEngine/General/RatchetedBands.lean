/-
Bands around a price that ratchet towards it.

Each band takes its new basic value when that one is tighter or when the last value broke
through the band, and stays otherwise.  The two bands move independently: they keep their
order unless the basic bands jump over a band that was not broken.
-/

import Mathlib.Order.Lattice

namespace RatchetedBands

variable {α : Type} [LinearOrder α]

structure Band (α : Type) where
  lower : α
  upper : α

namespace Band

def Ordered (band : Band α) : Prop :=
  band.lower ≤ band.upper

def tighten (basic : Band α) (last : α) (previous : Band α) : Band α :=
  { upper :=
      if basic.upper < previous.upper ∨ previous.upper < last then basic.upper
      else previous.upper
    lower :=
      if previous.lower < basic.lower ∨ last < previous.lower then basic.lower
      else previous.lower }

/-- The basic bands lie beyond a band that the last value did not break through. -/
def Jumps (basic : Band α) (last : α) (previous : Band α) : Prop :=
  (last ≤ previous.upper ∧ previous.upper < basic.lower) ∨
    (previous.lower ≤ last ∧ basic.upper < previous.lower)

instance (basic : Band α) (last : α) (previous : Band α) :
    Decidable (basic.Jumps last previous) :=
  inferInstanceAs (Decidable (_ ∨ _))

variable {basic previous : Band α} {last : α}

theorem lower_le_tighten (above : previous.lower ≤ last) :
    previous.lower ≤ (basic.tighten last previous).lower := by
  unfold tighten
  dsimp only
  split_ifs with moves
  · exact (moves.resolve_right (not_lt.mpr above)).le
  · exact le_refl _

theorem tighten_upper_le (below : last ≤ previous.upper) :
    (basic.tighten last previous).upper ≤ previous.upper := by
  unfold tighten
  dsimp only
  split_ifs with moves
  · exact (moves.resolve_right (not_lt.mpr below)).le
  · exact le_refl _

theorem not_ordered_of_jumps (ordered : basic.Ordered) (before : previous.Ordered)
    (jumps : basic.Jumps last previous) : ¬ (basic.tighten last previous).Ordered := by
  unfold Ordered tighten
  dsimp only
  rcases jumps with ⟨unbroken, above⟩ | ⟨unbroken, below⟩
  · have upperStays : ¬ (basic.upper < previous.upper ∨ previous.upper < last) :=
      not_or.mpr ⟨not_lt.mpr (above.le.trans ordered), not_lt.mpr unbroken⟩
    have lowerMoves : previous.lower < basic.lower := lt_of_le_of_lt before above
    rw [if_neg upperStays, if_pos (Or.inl lowerMoves)]
    exact not_le.mpr above
  · have lowerStays : ¬ (previous.lower < basic.lower ∨ last < previous.lower) :=
      not_or.mpr ⟨not_lt.mpr (le_trans ordered below.le), not_lt.mpr unbroken⟩
    have upperMoves : basic.upper < previous.upper := lt_of_lt_of_le below before
    rw [if_neg lowerStays, if_pos (Or.inl upperMoves)]
    exact not_le.mpr below

theorem ordered_tighten_iff (ordered : basic.Ordered) (before : previous.Ordered) :
    (basic.tighten last previous).Ordered ↔ ¬ basic.Jumps last previous := by
  constructor
  · exact fun stays jumps => not_ordered_of_jumps ordered before jumps stays
  · intro calm
    unfold Ordered tighten
    dsimp only
    split_ifs with lowerMoves upperMoves upperMoves
    · exact ordered
    · rw [not_or, not_lt, not_lt] at upperMoves
      exact not_lt.mp (fun above => calm (Or.inl ⟨upperMoves.2, above⟩))
    · rw [not_or, not_lt, not_lt] at lowerMoves
      exact not_lt.mp (fun below => calm (Or.inr ⟨lowerMoves.2, below⟩))
    · exact before

end Band

end RatchetedBands
