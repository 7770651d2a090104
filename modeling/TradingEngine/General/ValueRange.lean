/-
Values within the range of a list.

A value is within a list when it is between the smallest and the largest member.  It
stays so when members are added, and so does its weighted average with the added one.
-/

import Mathlib.Algebra.Order.Field.Basic
import Mathlib.Tactic.Linarith

namespace ValueRange

variable {K : Type} [Field K] [LinearOrder K]

/-- Between the smallest and the largest of the values. -/
def Within (values : List K) (value : K) : Prop :=
  (∃ low ∈ values, low ≤ value) ∧ ∃ high ∈ values, value ≤ high

omit [Field K] in
theorem within_singleton (value : K) : Within [value] value :=
  ⟨⟨value, List.mem_singleton_self value, le_refl value⟩,
    ⟨value, List.mem_singleton_self value, le_refl value⟩⟩

omit [Field K] in
theorem Within.append {values : List K} {value : K} (within : Within values value)
    (later : K) : Within (values ++ [later]) value := by
  obtain ⟨⟨low, lowMember, above⟩, ⟨high, highMember, below⟩⟩ := within
  exact ⟨⟨low, List.mem_append_left _ lowMember, above⟩,
    ⟨high, List.mem_append_left _ highMember, below⟩⟩

theorem Within.average [IsStrictOrderedRing K] {values : List K} {held added : K}
    {heldWeight addedWeight : K} (within : Within values held) (heldPos : 0 < heldWeight)
    (addedPos : 0 < addedWeight) :
    Within (values ++ [added])
      ((heldWeight * held + addedWeight * added) / (heldWeight + addedWeight)) := by
  have total : 0 < heldWeight + addedWeight := add_pos heldPos addedPos
  obtain ⟨⟨low, lowMember, above⟩, ⟨high, highMember, below⟩⟩ := within
  have lastMember : added ∈ values ++ [added] := by simp
  constructor
  · rcases le_total held added with rises | falls
    · refine ⟨low, List.mem_append_left _ lowMember, ?_⟩
      rw [le_div_iff₀ total]
      nlinarith
    · refine ⟨added, lastMember, ?_⟩
      rw [le_div_iff₀ total]
      nlinarith
  · rcases le_total held added with rises | falls
    · refine ⟨added, lastMember, ?_⟩
      rw [div_le_iff₀ total]
      nlinarith
    · refine ⟨high, List.mem_append_left _ highMember, ?_⟩
      rw [div_le_iff₀ total]
      nlinarith

/-! ### The ends of the range -/

omit [Field K] in
theorem max?_concat (values : List K) (value : K) :
    (values ++ [value]).max? =
      some (match values.max? with
        | none => value
        | some most => if most < value then value else most) := by
  cases values with
  | nil => rfl
  | cons first rest =>
      rw [List.cons_append, List.max?_cons', List.max?_cons', List.foldl_append]
      dsimp only [List.foldl_cons, List.foldl_nil]
      split_ifs with above
      · rw [max_eq_right (le_of_lt above)]
      · rw [max_eq_left (not_lt.mp above)]

omit [Field K] in
theorem min?_concat (values : List K) (value : K) :
    (values ++ [value]).min? =
      some (match values.min? with
        | none => value
        | some least => if value < least then value else least) := by
  cases values with
  | nil => rfl
  | cons first rest =>
      rw [List.cons_append, List.min?_cons', List.min?_cons', List.foldl_append]
      dsimp only [List.foldl_cons, List.foldl_nil]
      split_ifs with below
      · rw [min_eq_right (le_of_lt below)]
      · rw [min_eq_left (not_lt.mp below)]

end ValueRange
