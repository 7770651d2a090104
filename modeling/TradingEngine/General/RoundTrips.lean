/-
Round trips: trades that open and close one position at a time.

A trade opens a position when nothing is held and closes the held one otherwise.  Which
trades open, and which close an opening one, is for the user of the library to say; when
closing undoes what opening did, the trades add up to what is held.
-/

import Mathlib.Algebra.BigOperators.Group.List.Basic
import Mathlib.Data.List.Induction

namespace RoundTrips

variable {ι : Type} (opens : ι → Bool) (closes : ι → ι → Bool)

/-- The position after one more trade, when the trade fits the position before it. -/
def trade (held : Option ι) (next : ι) : Option (Option ι) :=
  match held with
  | none => if opens next then some (some next) else none
  | some entry => if closes entry next then some none else none

def heldAfter (trades : List ι) : Option (Option ι) :=
  trades.foldlM (trade opens closes) none

/-- Entries and exits alternate, starting with an entry. -/
def Alternate (trades : List ι) : Prop :=
  (heldAfter opens closes trades).isSome

instance (trades : List ι) : Decidable (Alternate opens closes trades) :=
  inferInstanceAs (Decidable (_ = true))

variable {opens closes} {trades : List ι}

theorem heldAfter_concat (trades : List ι) (next : ι) :
    heldAfter opens closes (trades ++ [next]) =
      (heldAfter opens closes trades).bind (fun held => trade opens closes held next) := by
  unfold heldAfter
  rw [List.foldlM_append]
  exact congrArg _ (funext fun held => List.foldlM_cons.trans (bind_pure _))

theorem heldAfter_open {entry : ι} (flat : heldAfter opens closes trades = some none)
    (opening : opens entry = true) :
    heldAfter opens closes (trades ++ [entry]) = some (some entry) := by
  rw [heldAfter_concat, flat, Option.bind_some, trade, if_pos opening]

theorem heldAfter_close {entry exit : ι}
    (held : heldAfter opens closes trades = some (some entry))
    (closing : closes entry exit = true) :
    heldAfter opens closes (trades ++ [exit]) = some none := by
  rw [heldAfter_concat, held, Option.bind_some, trade, if_pos closing]

theorem sum_of_heldAfter {M : Type} [AddCommGroup M] (signed : ι → M)
    (undoes : ∀ entry exit, closes entry exit = true → signed exit = -signed entry)
    {held : Option ι} (after : heldAfter opens closes trades = some held) :
    (trades.map signed).sum = held.elim 0 signed := by
  induction trades using List.reverseRecOn generalizing held with
  | nil =>
      cases after
      rfl
  | append_singleton earlier last ih =>
      rw [heldAfter_concat] at after
      obtain ⟨before, reached, traded⟩ := Option.bind_eq_some_iff.mp after
      rw [List.map_append, List.sum_append, ih reached, List.map_singleton, List.sum_singleton]
      cases before with
      | none =>
          rw [trade] at traded
          split_ifs at traded
          cases traded
          exact zero_add _
      | some entry =>
          by_cases closing : closes entry last = true
          · rw [trade, if_pos closing] at traded
            cases traded
            rw [undoes entry last closing]
            exact add_neg_cancel _
          · rw [trade, if_neg closing] at traded
            cases traded

end RoundTrips
