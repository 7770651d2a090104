/-
Dictionaries that change in batches.

A batch removes keys and then writes values under distinct keys.  Along a history of
batches a binding is the last one written under its key, and weights are conserved: what
was written is still held, was removed, or was written over.
-/

import Mathlib.Algebra.BigOperators.Group.Finset.Basic
import TradingEngine.General.OrderedDict

namespace BatchedDict

variable {κ ν M : Type} [DecidableEq κ]

structure Batch (κ ν : Type) where
  removed : List κ
  written : List (κ × ν)
  removed_nodup : removed.Nodup
  written_nodup : (written.map Prod.fst).Nodup

def removeAll (dict : OrderedDict κ ν) (removed : List κ) : OrderedDict κ ν :=
  removed.foldl OrderedDict.erase dict

def writeAll (dict : OrderedDict κ ν) (written : List (κ × ν)) : OrderedDict κ ν :=
  written.foldl (fun dict entry => dict.insert entry.1 entry.2) dict

def Batch.apply (batch : Batch κ ν) (dict : OrderedDict κ ν) : OrderedDict κ ν :=
  writeAll (removeAll dict batch.removed) batch.written

/-! ### One batch -/

theorem get?_removeAll (dict : OrderedDict κ ν) (removed : List κ) (key : κ) :
    (removeAll dict removed).get? key = if key ∈ removed then none else dict.get? key := by
  induction removed generalizing dict with
  | nil => rfl
  | cons first rest ih =>
      change (removeAll (dict.erase first) rest).get? key = _
      rw [ih, OrderedDict.get?_erase]
      by_cases same : key = first
      · simp [same]
      · simp [same]

theorem get?_writeAll_iff {dict : OrderedDict κ ν} {written : List (κ × ν)}
    (distinct : (written.map Prod.fst).Nodup) {key : κ} {value : ν} :
    (writeAll dict written).get? key = some value ↔
      (key, value) ∈ written ∨
        (key ∉ written.map Prod.fst ∧ dict.get? key = some value) := by
  induction written generalizing dict with
  | nil => simp [writeAll]
  | cons entry rest ih =>
      obtain ⟨fresh, later⟩ := List.nodup_cons.mp distinct
      change (writeAll (dict.insert entry.1 entry.2) rest).get? key = some value ↔ _
      rw [ih later, OrderedDict.get?_insert, List.mem_cons, List.map_cons, List.mem_cons, not_or]
      by_cases same : key = entry.1
      · subst same
        have other : (entry.1, value) ∉ rest := fun member =>
          fresh (List.mem_map.mpr ⟨_, member, rfl⟩)
        rw [if_pos rfl, Option.some_inj, Prod.ext_iff]
        simp [fresh, other, eq_comm]
      · rw [if_neg same, Prod.ext_iff]
        simp [same]

section Totals

variable [AddCommGroup M] (weight : κ → ν → M)

theorem weightAt_erase_of_ne (dict : OrderedDict κ ν) {erased key : κ} (other : key ≠ erased) :
    (dict.erase erased).weightAt weight key = dict.weightAt weight key := by
  unfold OrderedDict.weightAt
  rw [OrderedDict.get?_erase, if_neg other]

theorem weightAt_insert_of_ne (dict : OrderedDict κ ν) {assigned key : κ} (value : ν)
    (other : key ≠ assigned) :
    (dict.insert assigned value).weightAt weight key = dict.weightAt weight key := by
  unfold OrderedDict.weightAt
  rw [OrderedDict.get?_insert, if_neg other]

theorem total_erase_add_weightAt (dict : OrderedDict κ ν) (key : κ) :
    (dict.erase key).total weight + dict.weightAt weight key = dict.total weight := by
  unfold OrderedDict.weightAt
  cases found : dict.get? key with
  | some value => exact OrderedDict.total_erase weight found
  | none =>
      have same : (dict.erase key).entries = dict.entries := by
        apply List.filter_eq_self.mpr
        intro entry member
        apply decide_eq_true
        intro equal
        exact OrderedDict.get?_eq_none_iff.mp found (List.mem_map.mpr ⟨entry, member, equal⟩)
      unfold OrderedDict.total
      rw [same]
      exact add_zero _

theorem total_insert_add_weightAt (dict : OrderedDict κ ν) (key : κ) (value : ν) :
    (dict.insert key value).total weight + dict.weightAt weight key =
      dict.total weight + weight key value := by
  unfold OrderedDict.weightAt
  cases found : dict.get? key with
  | some old => exact OrderedDict.total_insert_of_get?_some weight value found
  | none =>
      rw [OrderedDict.total_insert_of_get?_none weight value found]
      exact add_zero _

theorem total_removeAll (dict : OrderedDict κ ν) {removed : List κ} (distinct : removed.Nodup) :
    (removeAll dict removed).total weight + (removed.map (dict.weightAt weight)).sum =
      dict.total weight := by
  induction removed generalizing dict with
  | nil => exact add_zero _
  | cons first rest ih =>
      obtain ⟨fresh, later⟩ := List.nodup_cons.mp distinct
      have untouched : rest.map (dict.weightAt weight) =
          rest.map ((dict.erase first).weightAt weight) := by
        apply List.map_congr_left
        intro key member
        have other : key ≠ first := by
          intro same
          exact fresh (same ▸ member)
        exact (weightAt_erase_of_ne weight dict other).symm
      change (removeAll (dict.erase first) rest).total weight + _ = _
      rw [List.map_cons, List.sum_cons, untouched, add_left_comm, ih _ later, add_comm]
      exact total_erase_add_weightAt weight dict first

theorem total_writeAll (dict : OrderedDict κ ν) {written : List (κ × ν)}
    (distinct : (written.map Prod.fst).Nodup) :
    (writeAll dict written).total weight +
        (written.map (fun entry => dict.weightAt weight entry.1)).sum =
      dict.total weight + (written.map (fun entry => weight entry.1 entry.2)).sum := by
  induction written generalizing dict with
  | nil => rfl
  | cons entry rest ih =>
      obtain ⟨fresh, later⟩ := List.nodup_cons.mp distinct
      have untouched : rest.map (fun other => dict.weightAt weight other.1) =
          rest.map (fun other => (dict.insert entry.1 entry.2).weightAt weight other.1) := by
        apply List.map_congr_left
        intro other member
        have differs : other.1 ≠ entry.1 := by
          intro same
          exact fresh (same ▸ List.mem_map_of_mem member)
        exact (weightAt_insert_of_ne weight dict entry.2 differs).symm
      change (writeAll (dict.insert entry.1 entry.2) rest).total weight + _ = _
      rw [List.map_cons, List.sum_cons, untouched, add_left_comm, ih _ later, ← add_assoc,
        add_comm (dict.weightAt weight entry.1), total_insert_add_weightAt, List.map_cons,
        List.sum_cons, add_assoc]

end Totals

/-! ### A history of batches -/

/-- Dictionaries of which each is made from the one before by a batch. -/
structure History (states : ℕ → OrderedDict κ ν) (batches : ℕ → Batch κ ν) : Prop where
  start : states 0 = OrderedDict.empty
  step : ∀ n, states (n + 1) = (batches n).apply (states n)

/-- A binding that was written and whose key no later batch has removed or written. -/
def LastWritten (batches : ℕ → Batch κ ν) (n : ℕ) (key : κ) (value : ν) : Prop :=
  ∃ m < n, (key, value) ∈ (batches m).written ∧ ∀ later, m < later → later < n →
    key ∉ (batches later).removed ∧ key ∉ (batches later).written.map Prod.fst

namespace History

variable {states : ℕ → OrderedDict κ ν} {batches : ℕ → Batch κ ν}
  (history : History states batches)
include history

theorem get?_succ_iff {n : ℕ} {key : κ} {value : ν} :
    (states (n + 1)).get? key = some value ↔
      (key, value) ∈ (batches n).written ∨
        (key ∉ (batches n).removed ∧ key ∉ (batches n).written.map Prod.fst ∧
          (states n).get? key = some value) := by
  rw [history.step, Batch.apply, get?_writeAll_iff (batches n).written_nodup, get?_removeAll]
  by_cases removed : key ∈ (batches n).removed
  · simp [removed]
  · simp [removed]

theorem get?_iff {n : ℕ} {key : κ} {value : ν} :
    (states n).get? key = some value ↔ LastWritten batches n key value := by
  induction n with
  | zero =>
      rw [history.start]
      constructor
      · intro found
        cases found
      · intro ⟨m, early, _⟩
        exact absurd early (Nat.not_lt_zero m)
  | succ n ih =>
      rw [history.get?_succ_iff, ih]
      constructor
      · intro found
        rcases found with new | ⟨kept, unwritten, m, early, written, since⟩
        · refine ⟨n, Nat.lt_succ_self n, new, ?_⟩
          intro later after before
          omega
        · refine ⟨m, Nat.lt_succ_of_lt early, written, ?_⟩
          intro later after before
          rcases Nat.lt_or_eq_of_le (Nat.le_of_lt_succ before) with inside | last
          · exact since later after inside
          · rw [last]
            exact ⟨kept, unwritten⟩
      · intro ⟨m, early, written, since⟩
        rcases Nat.lt_or_eq_of_le (Nat.le_of_lt_succ early) with inside | last
        · have here := since n inside (Nat.lt_succ_self n)
          refine Or.inr ⟨here.1, here.2, m, inside, written, ?_⟩
          intro later after before
          exact since later after (Nat.lt_succ_of_lt before)
        · exact Or.inl (last ▸ written)

theorem sum_written [AddCommGroup M] (weight : κ → ν → M) (n : ℕ) :
    ∑ m ∈ Finset.range n, ((batches m).written.map (fun entry => weight entry.1 entry.2)).sum =
      (states n).total weight +
        ∑ m ∈ Finset.range n, ((batches m).removed.map ((states m).weightAt weight)).sum +
        ∑ m ∈ Finset.range n, ((batches m).written.map (fun entry =>
          (removeAll (states m) (batches m).removed).weightAt weight entry.1)).sum := by
  induction n with
  | zero =>
      rw [history.start]
      simp [OrderedDict.total_empty]
  | succ n ih =>
      have removed := total_removeAll weight (states n) (batches n).removed_nodup
      have written := total_writeAll weight (removeAll (states n) (batches n).removed)
        (batches n).written_nodup
      rw [Finset.sum_range_succ, Finset.sum_range_succ, Finset.sum_range_succ, ih,
        ← removed, history.step, Batch.apply]
      rw [← sub_eq_iff_eq_add] at written
      rw [← written]
      abel

end History

end BatchedDict
