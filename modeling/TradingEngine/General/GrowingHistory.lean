/-
Histories that grow by one item a day.

Each day's history is the one of the day before with one item at its end.  So every
later history extends every earlier one, and an item that came in later is the last
item of the history of exactly one day.
-/

import Mathlib.Data.List.Basic

namespace GrowingHistory

variable {α : Type}

def Grows (history : ℕ → List α) : Prop :=
  ∀ day, ∃ item, history (day + 1) = history day ++ [item]

theorem Grows.exists_later {history : ℕ → List α} (grows : Grows history) (day count : ℕ) :
    ∃ later, later.length = count ∧ history (day + count) = history day ++ later := by
  induction count with
  | zero => exact ⟨[], rfl, (List.append_nil _).symm⟩
  | succ count ih =>
      obtain ⟨later, lengthEq, same⟩ := ih
      obtain ⟨item, next⟩ := grows (day + count)
      refine ⟨later ++ [item], ?_, ?_⟩
      · rw [List.length_append, lengthEq, List.length_singleton]
      · rw [← Nat.add_assoc, next, same, List.append_assoc]

theorem Grows.exists_later_of_lt {history : ℕ → List α} (grows : Grows history)
    {earlier day : ℕ} (order : earlier < day) :
    ∃ later, later ≠ [] ∧ history day = history earlier ++ later := by
  obtain ⟨later, lengthEq, same⟩ := grows.exists_later earlier (day - earlier)
  refine ⟨later, ?_, ?_⟩
  · apply List.ne_nil_of_length_pos
    omega
  · rw [← same, Nat.add_sub_cancel' (Nat.le_of_lt order)]

theorem Grows.length_add {history : ℕ → List α} (grows : Grows history) (day count : ℕ) :
    (history (day + count)).length = (history day).length + count := by
  obtain ⟨later, lengthEq, same⟩ := grows.exists_later day count
  rw [same, List.length_append, lengthEq]

theorem Grows.exists_day {history : ℕ → List α} (grows : Grows history) {earlier day i : ℕ}
    (order : earlier ≤ day) (after : (history earlier).length ≤ i)
    (before : i + 1 < (history day).length) :
    ∃ between, earlier < between ∧ between < day ∧ (history between).length = i + 1 := by
  have whole := grows.length_add earlier (day - earlier)
  rw [Nat.add_sub_cancel' order] at whole
  have part := grows.length_add earlier (i + 1 - (history earlier).length)
  exact ⟨earlier + (i + 1 - (history earlier).length), by omega, by omega, by omega⟩

end GrowingHistory
