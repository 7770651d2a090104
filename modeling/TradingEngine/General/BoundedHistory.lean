/-
Histories that keep their newest items.

An item is pushed at the end and the oldest ones leave when there are too many.  What is
kept of a run is the end of the list of all its items, so it is read from its end as the
whole list is.
-/

import Mathlib.Data.List.DropRight

namespace BoundedHistory

variable {α : Type} {kept : ℕ} {all : List α}

/-- The newest `kept` items with one more. -/
theorem rtake_concat (kept : ℕ) (all : List α) (item : α) :
    (all.rtake kept ++ [item]).rtake kept = (all ++ [item]).rtake kept := by
  cases kept with
  | zero => rw [List.rtake_zero, List.rtake_zero]
  | succ count =>
      rw [List.rtake_concat_succ, List.rtake_concat_succ, List.rtake, List.rtake, List.rtake,
        List.drop_drop, List.length_drop]
      congr 2
      omega

theorem length_rtake (kept : ℕ) (all : List α) : (all.rtake kept).length = min kept all.length := by
  rw [List.rtake, List.length_drop]
  omega

theorem getElem?_rtake {back : ℕ} (within : back ≤ kept) (present : back ≤ all.length) :
    (all.rtake kept)[(all.rtake kept).length - back]? = all[all.length - back]? := by
  rw [length_rtake, List.rtake, List.getElem?_drop]
  congr 1
  omega

theorem le_length_rtake_iff {back : ℕ} (within : back ≤ kept) :
    back ≤ (all.rtake kept).length ↔ back ≤ all.length := by
  rw [length_rtake]
  omega

theorem tail_eq_rtake {history : List α} (full : history.length ≤ kept + 1) :
    (if kept < history.length then history.tail else history) = history.rtake kept := by
  rw [List.rtake]
  split_ifs with long
  · rw [show history.length - kept = 1 by omega, List.drop_one]
  · rw [show history.length - kept = 0 by omega, List.drop_zero]

end BoundedHistory
