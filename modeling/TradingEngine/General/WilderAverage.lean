/-
Wilder's smoothed averages.

The mean of the first `p` changes seeds the average; every later change replaces a `p`-th part
of it.  A pass over the changes that keeps their sum until the seed is due keeps the average
from then on.
-/

import Mathlib.Algebra.BigOperators.Group.List.Basic
import Mathlib.Algebra.Field.Defs
import Mathlib.Algebra.Order.Ring.Nat

namespace WilderAverage

variable {K : Type} [Field K] {p : ℕ}

def smoothed (p : ℕ) (average change : K) : K :=
  (average * (p - 1) + change) / p

/-- The average of at least `p` changes. -/
def average (p : ℕ) (changes : List K) : K :=
  (changes.drop p).foldl (smoothed p) ((changes.take p).sum / p)

theorem average_of_length {changes : List K} (seeding : changes.length = p) :
    average p changes = changes.sum / p := by
  rw [average, List.drop_of_length_le seeding.le, List.take_of_length_le seeding.le]
  rfl

theorem average_concat {changes : List K} (seeded : p ≤ changes.length) (change : K) :
    average p (changes ++ [change]) = smoothed p (average p changes) change := by
  rw [average, List.drop_append_of_le_length seeded, List.take_append_of_le_length seeded,
    List.foldl_append]
  rfl

/-- What a pass keeps: the sum of the changes before the seed is due, the average after. -/
def kept (p : ℕ) (changes : List K) : K :=
  if changes.length < p then changes.sum else average p changes

theorem kept_of_le {changes : List K} (seeded : p ≤ changes.length) :
    kept p changes = average p changes :=
  if_neg (not_lt.mpr seeded)

theorem kept_concat (changes : List K) (change : K) :
    kept p (changes ++ [change]) =
      if changes.length + 1 < p then kept p changes + change
      else if changes.length + 1 = p then (kept p changes + change) / p
      else smoothed p (kept p changes) change := by
  have grown : (changes ++ [change]).length = changes.length + 1 := List.length_append
  have total : (changes ++ [change]).sum = changes.sum + change := by
    rw [List.sum_append, List.sum_singleton]
  by_cases warmup : changes.length + 1 < p
  · rw [if_pos warmup, kept, kept, if_pos (grown.trans_lt warmup),
      if_pos (Nat.lt_of_succ_lt warmup), total]
  rw [if_neg warmup]
  by_cases due : changes.length + 1 = p
  · have summing : kept p changes = changes.sum := if_pos (due ▸ Nat.lt_succ_self _)
    rw [if_pos due, summing, kept_of_le (grown.trans due).ge,
      average_of_length (grown.trans due), total]
  · have seeded : p ≤ changes.length := by omega
    rw [if_neg due, kept_of_le seeded, kept_of_le (grown.symm ▸ Nat.le_succ_of_le seeded),
      average_concat seeded]

/-! ### Changes -/

def changes : List K → List K
  | previous :: value :: rest => (value - previous) :: changes (value :: rest)
  | _ => []

theorem changes_concat {values : List K} {previous : K} (last : values.getLast? = some previous)
    (value : K) : changes (values ++ [value]) = changes values ++ [value - previous] := by
  induction values with
  | nil => cases last
  | cons first rest ih =>
      cases rest with
      | nil =>
          cases last
          rfl
      | cons second others =>
          rw [List.getLast?_cons_cons] at last
          exact congrArg (List.cons (second - first)) (ih last)

theorem length_changes (values : List K) : (changes values).length = values.length - 1 := by
  induction values with
  | nil => rfl
  | cons first rest ih =>
      cases rest with
      | nil => rfl
      | cons second others => exact congrArg (· + 1) ih

end WilderAverage
