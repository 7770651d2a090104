/-
Counted loops.

`loop body start count` is the state after `for i in range(count)`.  The rules
say what a whole loop keeps once one pass keeps it: an invariant, a relation
between two loops, and agreement of two loops that stay related for exactly as
long as their passes are clean.
-/

import Mathlib.Order.Basic

namespace RangeLoop

variable {σ ρ : Type}

def loop (body : ℕ → σ → σ) (start : σ) : ℕ → σ
  | 0 => start
  | count + 1 => body count (loop body start count)

theorem loop_invariant (body : ℕ → σ → σ) (start : σ) (Holds : ℕ → σ → Prop)
    (count : ℕ) (initial : Holds 0 start)
    (pass : ∀ i state, i < count → Holds i state → Holds (i + 1) (body i state)) :
    Holds count (loop body start count) := by
  induction count with
  | zero => exact initial
  | succ count ih =>
      apply pass count _ (Nat.lt_succ_self count)
      exact ih (fun i state before => pass i state (Nat.lt_succ_of_lt before))

theorem loop_related (left : ℕ → σ → σ) (right : ℕ → ρ → ρ) (leftStart : σ)
    (rightStart : ρ) (Related : σ → ρ → Prop) (count : ℕ)
    (initial : Related leftStart rightStart)
    (pass : ∀ i a b, i < count → Related a b → Related (left i a) (right i b)) :
    Related (loop left leftStart count) (loop right rightStart count) := by
  induction count with
  | zero => exact initial
  | succ count ih =>
      apply pass count _ _ (Nat.lt_succ_self count)
      exact ih (fun i a b before => pass i a b (Nat.lt_succ_of_lt before))

/-- Agreement of two runs.  `Related i` relates their states before pass `i`;
while related, pass `i` agrees exactly when it is clean, and a clean pass keeps
them related.  Then all passes agree exactly when all passes are clean. -/
theorem lockstep_iff (Related Agrees Clean : ℕ → Prop) (count : ℕ) (initial : Related 0)
    (agree : ∀ i, i < count → Related i → (Agrees i ↔ Clean i))
    (next : ∀ i, i < count → Related i → Clean i → Related (i + 1)) :
    (∀ i, i < count → Agrees i) ↔ (∀ i, i < count → Clean i) := by
  have related_of_clean : ∀ n, n ≤ count → (∀ i, i < n → Clean i) → Related n := by
    intro n
    induction n with
    | zero => exact fun _ _ => initial
    | succ n ih =>
        intro bound clean
        exact next n bound
          (ih (Nat.le_of_succ_le bound) (fun i before => clean i (Nat.lt_succ_of_lt before)))
          (clean n (Nat.lt_succ_self n))
  constructor
  · intro agrees i
    induction i using Nat.strongRecOn with
    | ind i ih =>
        intro bound
        have cleanBefore : ∀ j, j < i → Clean j :=
          fun j before => ih j before (Nat.lt_trans before bound)
        exact (agree i bound (related_of_clean i (Nat.le_of_lt bound) cleanBefore)).mp
          (agrees i bound)
  · intro clean i bound
    have cleanBefore : ∀ j, j < i → Clean j :=
      fun j before => clean j (Nat.lt_trans before bound)
    exact (agree i bound (related_of_clean i (Nat.le_of_lt bound) cleanBefore)).mpr
      (clean i bound)

theorem related_of_clean (Related Clean : ℕ → Prop) (count : ℕ) (initial : Related 0)
    (next : ∀ i, i < count → Related i → Clean i → Related (i + 1))
    (clean : ∀ i, i < count → Clean i) : Related count := by
  induction count with
  | zero => exact initial
  | succ count ih =>
      apply next count (Nat.lt_succ_self count) _ (clean count (Nat.lt_succ_self count))
      exact ih (fun i before => next i (Nat.lt_succ_of_lt before))
        (fun i before => clean i (Nat.lt_succ_of_lt before))

end RangeLoop
