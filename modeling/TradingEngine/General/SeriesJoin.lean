/-
The join of two series by a key.

Each series has increasing keys, and the items of both arrive in the order of their keys.
A reader that remembers only the last item of each side then sees every pair of the join:
an item that arrives adds the pair that it makes with the last item of the other side.
-/

import Mathlib.Data.List.Basic
import Mathlib.Data.List.Induction
import Mathlib.Order.Lattice

namespace SeriesJoin

variable {α β τ : Type} [LinearOrder τ] (left : α → τ) (right : β → τ)

/-- Every item of the first series with the item of the second that has its key. -/
def joined (first : List α) (second : List β) : List (α × β) :=
  first.filterMap (fun a => (second.find? (fun b => right b = left a)).map (fun b => (a, b)))

/-- The last items of both sides, if they have one key. -/
def matched (a : Option α) (b : Option β) : Option (α × β) :=
  match a, b with
  | some a, some b => if right b = left a then some (a, b) else none
  | _, _ => none

variable {left right} {first : List α} {second : List β}

theorem find?_last {key : τ} (increasing : second.Pairwise (fun b c => right b < right c))
    (bounded : ∀ b ∈ second, right b ≤ key) :
    second.find? (fun b => right b = key) = second.getLast?.filter (fun b => right b = key) := by
  cases second using List.reverseRecOn with
  | nil => rfl
  | append_singleton before last =>
      obtain ⟨_, _, below⟩ := List.pairwise_append.mp increasing
      have none_ : before.find? (fun b => right b = key) = none := by
        apply List.find?_eq_none.mpr
        intro b member same
        have lower := below b member last List.mem_cons_self
        have upper := bounded last (List.mem_append_right _ List.mem_cons_self)
        rw [of_decide_eq_true same] at lower
        exact absurd lower (not_lt.mpr upper)
      rw [List.find?_append, none_, Option.none_or, List.getLast?_concat, List.find?_singleton,
        Option.filter_some]

theorem joined_append (first others : List α) (second : List β) :
    joined left right (first ++ others) second =
      joined left right first second ++ joined left right others second :=
  List.filterMap_append

theorem joined_singleton (a : α) (second : List β) :
    joined left right [a] second =
      ((second.find? (fun b => right b = left a)).map (fun b => (a, b))).toList := by
  unfold joined
  rw [List.filterMap_cons]
  cases second.find? (fun b => right b = left a) <;> rfl

theorem joined_concat_left (increasing : second.Pairwise (fun b c => right b < right c)) {a : α}
    (bounded : ∀ b ∈ second, right b ≤ left a) :
    joined left right (first ++ [a]) second =
      joined left right first second ++ (matched left right (some a) second.getLast?).toList := by
  rw [joined_append, joined_singleton, find?_last increasing bounded]
  unfold matched
  cases second.getLast? with
  | none => rfl
  | some b =>
      dsimp only
      rw [Option.filter_some]
      by_cases same : right b = left a
      · rw [if_pos (decide_eq_true same), if_pos same]
        rfl
      · rw [if_neg (fun equal => same (of_decide_eq_true equal)), if_neg same]
        rfl

theorem joined_concat_right (increasing : first.Pairwise (fun a c => left a < left c)) {b : β}
    (bounded : ∀ a ∈ first, left a ≤ right b) (fresh : ∀ c ∈ second, right c < right b) :
    joined left right first (second ++ [b]) =
      joined left right first second ++ (matched left right first.getLast? (some b)).toList := by
  cases first using List.reverseRecOn with
  | nil => rfl
  | append_singleton before last =>
      obtain ⟨_, _, below⟩ := List.pairwise_append.mp increasing
      have upper := bounded last (List.mem_append_right _ List.mem_cons_self)
      have older : joined left right before (second ++ [b]) =
          joined left right before second := by
        apply List.filterMap_congr
        intro a member
        have lower := below a member last List.mem_cons_self
        have other : ¬ right b = left a := fun same => absurd (same ▸ lower) (not_lt.mpr upper)
        rw [List.find?_append, List.find?_singleton,
          if_neg (fun equal => other (of_decide_eq_true equal)), Option.or_none]
      rw [joined_append, joined_append, older, List.append_assoc, joined_singleton,
        joined_singleton, List.getLast?_concat, List.find?_append, List.find?_singleton]
      congr 1
      unfold matched
      by_cases same : right b = left last
      · have unmatched : second.find? (fun c => right c = left last) = none := by
          apply List.find?_eq_none.mpr
          intro c member equal
          have lower := fresh c member
          rw [of_decide_eq_true equal, same] at lower
          exact lt_irrefl _ lower
        rw [unmatched, if_pos (decide_eq_true same)]
        dsimp only
        rw [if_pos same]
        rfl
      · rw [if_neg (fun equal => same (of_decide_eq_true equal)), Option.or_none]
        dsimp only
        rw [if_neg same]
        exact (List.append_nil _).symm

end SeriesJoin
