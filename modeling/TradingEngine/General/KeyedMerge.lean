/-
Merging rows by a key.

New rows are appended to the old ones, the first row of every key is kept and the result is
sorted by the key.  The old rows win over new ones with their keys, among new rows the first
one wins, and merging the same new rows again changes nothing.
-/

import Mathlib.Data.List.Sort

namespace KeyedMerge

variable {α β : Type}

section Distinct

variable [DecidableEq β] (key : α → β)

def keepFirst : List α → List α
  | [] => []
  | row :: rest => row :: (keepFirst rest).filter (fun later => key later ≠ key row)

/-- No two rows have one key. -/
def Distinct (rows : List α) : Prop :=
  rows.Pairwise (fun earlier later => key earlier ≠ key later)

variable {key} {rows old new : List α} {row : α}

theorem mem_keepFirst_iff :
    row ∈ keepFirst key rows ↔ rows.find? (fun other => key other = key row) = some row := by
  induction rows with
  | nil => simp [keepFirst]
  | cons first rest ih =>
      rw [keepFirst, List.mem_cons, List.mem_filter, ih]
      by_cases same : key first = key row
      · have here : (first :: rest).find? (fun other => key other = key row) = some first :=
          List.find?_cons_of_pos (decide_eq_true same)
        rw [here, Option.some.injEq]
        constructor
        · rintro (rfl | ⟨_found, other⟩)
          · rfl
          · exact absurd same.symm (of_decide_eq_true other)
        · intro found
          exact Or.inl found.symm
      · have further : (first :: rest).find? (fun other => key other = key row) =
            rest.find? (fun other => key other = key row) :=
          List.find?_cons_of_neg (by simpa using same)
        rw [further]
        constructor
        · rintro (rfl | ⟨found, _other⟩)
          · exact absurd rfl same
          · exact found
        · intro found
          exact Or.inr ⟨found, decide_eq_true (Ne.symm same)⟩

theorem keepFirst_subset (member : row ∈ keepFirst key rows) : row ∈ rows :=
  List.mem_of_find?_eq_some (mem_keepFirst_iff.mp member)

theorem exists_mem_keepFirst (key : α → β) (member : row ∈ rows) :
    ∃ first ∈ keepFirst key rows, key first = key row := by
  cases found : rows.find? (fun other => key other = key row) with
  | none =>
      have absent := List.find?_eq_none.mp found row member
      simp at absent
  | some first =>
      have same : key first = key row := by simpa using List.find?_some found
      refine ⟨first, mem_keepFirst_iff.mpr ?_, same⟩
      rw [same]
      exact found

theorem mem_keepFirst_id {α : Type} [DecidableEq α] {rows : List α} {row : α} :
    row ∈ keepFirst id rows ↔ row ∈ rows := by
  refine ⟨keepFirst_subset, fun member => ?_⟩
  obtain ⟨first, kept, same⟩ := exists_mem_keepFirst id member
  obtain rfl : first = row := same
  exact kept

theorem keepFirst_distinct (rows : List α) : Distinct key (keepFirst key rows) := by
  induction rows with
  | nil => exact List.Pairwise.nil
  | cons first rest ih =>
      refine List.pairwise_cons.mpr ⟨?_, ih.filter _⟩
      intro later member
      exact Ne.symm (of_decide_eq_true (List.mem_filter.mp member).2)

theorem keepFirst_append (distinct : Distinct key old) (new : List α) :
    keepFirst key (old ++ new) =
      old ++ (keepFirst key new).filter (fun row => ∀ kept ∈ old, key row ≠ key kept) := by
  induction old with
  | nil => simp
  | cons first rest ih =>
      obtain ⟨apart, others⟩ := List.pairwise_cons.mp distinct
      have kept : rest.filter (fun later => decide (key later ≠ key first)) = rest :=
        List.filter_eq_self.mpr fun later member => decide_eq_true (apart later member).symm
      rw [List.cons_append, keepFirst, ih others, List.filter_append, kept, List.filter_filter,
        List.cons_append]
      congr 2
      apply List.filter_congr
      intro row _member
      simp only [List.mem_cons, forall_eq_or_imp, Bool.decide_and]

theorem keepFirst_of_distinct (distinct : Distinct key rows) : keepFirst key rows = rows := by
  simpa [keepFirst] using keepFirst_append distinct []

theorem keepFirst_append_of_covered (distinct : Distinct key old)
    (covered : ∀ row ∈ new, ∃ kept ∈ old, key kept = key row) :
    keepFirst key (old ++ new) = old := by
  have nothing : (keepFirst key new).filter
      (fun row => ∀ kept ∈ old, key row ≠ key kept) = [] := by
    apply List.filter_eq_nil_iff.mpr
    intro row member fresh
    obtain ⟨kept, present, same⟩ := covered row (keepFirst_subset member)
    exact of_decide_eq_true fresh kept present same.symm
  rw [keepFirst_append distinct, nothing, List.append_nil]

theorem find?_of_distinct (distinct : Distinct key rows) (member : row ∈ rows) :
    rows.find? (fun other => key other = key row) = some row := by
  apply mem_keepFirst_iff.mp
  rwa [keepFirst_of_distinct distinct]

end Distinct

section Sorted

variable [LinearOrder β] (key : α → β)

def sortByKey (rows : List α) : List α :=
  rows.insertionSort (fun earlier later => key earlier ≤ key later)

/-- One row of every key, sorted. -/
def tidy (rows : List α) : List α :=
  sortByKey key (keepFirst key rows)

def merge (old new : List α) : List α :=
  tidy key (old ++ new)

variable {key} {rows old new : List α} {row : α}

theorem sortByKey_perm (rows : List α) : (sortByKey key rows).Perm rows :=
  List.perm_insertionSort _ rows

theorem sortByKey_sorted (rows : List α) :
    (sortByKey key rows).Pairwise (fun earlier later => key earlier ≤ key later) := by
  have : IsTrans α (fun earlier later => key earlier ≤ key later) :=
    ⟨fun _ _ _ first second => le_trans first second⟩
  have : Std.Total (fun earlier later : α => key earlier ≤ key later) :=
    ⟨fun earlier later => le_total (key earlier) (key later)⟩
  exact List.pairwise_insertionSort _ rows

theorem sortByKey_of_sorted
    (sorted : rows.Pairwise (fun earlier later => key earlier ≤ key later)) :
    sortByKey key rows = rows :=
  sorted.insertionSort_eq

theorem mem_tidy_iff :
    row ∈ tidy key rows ↔ rows.find? (fun other => key other = key row) = some row :=
  (sortByKey_perm _).mem_iff.trans mem_keepFirst_iff

theorem tidy_subset (member : row ∈ tidy key rows) : row ∈ rows :=
  List.mem_of_find?_eq_some (mem_tidy_iff.mp member)

theorem tidy_distinct (rows : List α) : Distinct key (tidy key rows) :=
  (sortByKey_perm _).symm.pairwise (keepFirst_distinct _) Ne.symm

theorem tidy_sorted (rows : List α) :
    (tidy key rows).Pairwise (fun earlier later => key earlier < key later) :=
  ((sortByKey_sorted _).and (tidy_distinct rows)).imp
    fun order => lt_of_le_of_ne order.1 order.2

theorem exists_mem_tidy (key : α → β) (member : row ∈ rows) :
    ∃ kept ∈ tidy key rows, key kept = key row := by
  obtain ⟨first, kept, same⟩ := exists_mem_keepFirst key member
  exact ⟨first, (sortByKey_perm _).mem_iff.mpr kept, same⟩

theorem tidy_append_of_covered (covered : ∀ row ∈ new, ∃ known ∈ rows, key known = key row) :
    tidy key (tidy key rows ++ new) = tidy key rows := by
  have kept : keepFirst key (tidy key rows ++ new) = tidy key rows := by
    refine keepFirst_append_of_covered (tidy_distinct rows) fun row member => ?_
    obtain ⟨known, present, same⟩ := covered row member
    obtain ⟨first, here, first_same⟩ := exists_mem_tidy key present
    exact ⟨first, here, first_same.trans same⟩
  rw [tidy, kept]
  exact sortByKey_of_sorted ((tidy_sorted rows).imp fun order => order.le)

theorem mem_merge_of_old (distinct : Distinct key old) (member : row ∈ old) :
    row ∈ merge key old new := by
  rw [merge, mem_tidy_iff, List.find?_append, find?_of_distinct distinct member]
  rfl

theorem mem_merge_iff_of_fresh (fresh : ∀ kept ∈ old, key kept ≠ key row) :
    row ∈ merge key old new ↔ new.find? (fun other => key other = key row) = some row := by
  have absent : old.find? (fun other => decide (key other = key row)) = none :=
    List.find?_eq_none.mpr fun kept member same => fresh kept member (of_decide_eq_true same)
  rw [merge, mem_tidy_iff, List.find?_append, absent, Option.none_or]

end Sorted

end KeyedMerge
