/-
Lists in the order of their times.

A stable sort commutes with dropping entries and does not depend on the order of entries that
it can tell apart.  A list in order splits at every cutoff, and what is logged along it is an
old part followed by a new one.
-/

import Mathlib.Data.List.Sort

namespace Timeline

variable {α : Type}

/-! ### Sorting -/

section Sorting

variable {r : α → α → Prop} [DecidableRel r] {a : α} {entries others : List α}

theorem filter_orderedInsert [IsTrans α r] (p : α → Bool) (sorted : entries.Pairwise r) :
    (entries.orderedInsert r a).filter p =
      if p a then (entries.filter p).orderedInsert r a else entries.filter p := by
  induction entries with
  | nil =>
      rw [List.orderedInsert_nil, List.filter_singleton]
      cases p a <;> rfl
  | cons first rest ih =>
      obtain ⟨before, restSorted⟩ := List.pairwise_cons.mp sorted
      rw [List.orderedInsert_cons]
      split_ifs with early kept kept
      · have ahead : ∀ entry ∈ (first :: rest).filter p, r a entry := by
          intro entry member
          rcases List.mem_cons.mp (List.mem_of_mem_filter member) with rfl | later
          · exact early
          · exact trans_of r early (before entry later)
        rw [List.filter_cons_of_pos kept]
        cases filtered : (first :: rest).filter p with
        | nil => rfl
        | cons head tail =>
            rw [filtered] at ahead
            exact (List.orderedInsert_cons_of_le r tail (ahead head List.mem_cons_self)).symm
      · exact List.filter_cons_of_neg kept
      · have inserted := ih restSorted
        rw [if_pos kept] at inserted
        by_cases keeps : p first = true
        · rw [List.filter_cons_of_pos keeps, List.filter_cons_of_pos keeps, inserted,
            List.orderedInsert_of_not_le r _ early]
        · rw [List.filter_cons_of_neg keeps, List.filter_cons_of_neg keeps, inserted]
      · have inserted := ih restSorted
        rw [if_neg kept] at inserted
        rw [List.filter_cons, List.filter_cons, inserted]

variable [Std.Total r] [IsTrans α r]

theorem filter_insertionSort (p : α → Bool) (entries : List α) :
    (entries.insertionSort r).filter p = (entries.filter p).insertionSort r := by
  induction entries with
  | nil => rfl
  | cons first rest ih =>
      rw [List.insertionSort_cons, filter_orderedInsert p (List.pairwise_insertionSort r rest), ih,
        List.filter_cons]
      split_ifs
      · exact (List.insertionSort_cons r first _).symm
      · rfl

theorem insertionSort_eq_of_perm (same : entries.Perm others)
    (apart : ∀ left ∈ entries, ∀ right ∈ entries, r left right → r right left → left = right) :
    entries.insertionSort r = others.insertionSort r := by
  have rearranged : (entries.insertionSort r).Perm (others.insertionSort r) :=
    (List.perm_insertionSort r entries).trans (same.trans (List.perm_insertionSort r others).symm)
  refine List.Perm.eq_of_pairwise ?_ (List.pairwise_insertionSort r entries)
    (List.pairwise_insertionSort r others) rearranged
  intro left right inLeft inRight
  exact apart left ((List.mem_insertionSort r).mp inLeft) right
    (same.mem_iff.mpr ((List.mem_insertionSort r).mp inRight))

end Sorting

/-! ### Cutting -/

theorem eq_filter_append_filter {p : α → Bool} {entries : List α}
    (ordered : entries.Pairwise (fun earlier later => p later = true → p earlier = true)) :
    entries = entries.filter p ++ entries.filter (fun entry => !p entry) := by
  induction entries with
  | nil => rfl
  | cons first rest ih =>
      obtain ⟨ahead, restOrdered⟩ := List.pairwise_cons.mp ordered
      cases kept : p first with
      | true =>
          rw [List.filter_cons_of_pos kept, List.filter_cons_of_neg (by simp [kept]),
            List.cons_append, ← ih restOrdered]
      | false =>
          have dropped : rest.filter p = [] := by
            rw [List.filter_eq_nil_iff]
            intro entry member keeps
            rw [ahead entry member keeps] at kept
            cases kept
          have all : rest.filter (fun entry => !p entry) = rest := by
            have split := ih restOrdered
            rw [dropped] at split
            exact split.symm
          rw [List.filter_cons_of_neg (by simp [kept]), dropped,
            List.filter_cons_of_pos (by simp [kept]), all]
          rfl

/-! ### Logs -/

/-- The later log adds entries with a property to the earlier one. -/
def Adds (Holds : α → Prop) (earlier later : List α) : Prop :=
  ∃ added, later = earlier ++ added ∧ ∀ entry ∈ added, Holds entry

section Adds

variable {Holds Other : α → Prop} {first second third : List α}

theorem Adds.refl (Holds : α → Prop) (entries : List α) : Adds Holds entries entries :=
  ⟨[], (List.append_nil entries).symm, fun _entry member => absurd member List.not_mem_nil⟩

theorem adds_append {added : List α} (holds : ∀ entry ∈ added, Holds entry)
    (entries : List α) : Adds Holds entries (entries ++ added) :=
  ⟨added, rfl, holds⟩

theorem Adds.trans (early : Adds Holds first second) (late : Adds Holds second third) :
    Adds Holds first third := by
  obtain ⟨added, rfl, holds⟩ := early
  obtain ⟨more, rfl, holdsMore⟩ := late
  refine ⟨added ++ more, List.append_assoc _ _ _, ?_⟩
  exact List.forall_mem_append.mpr ⟨holds, holdsMore⟩

theorem Adds.imp (adds : Adds Holds first second)
    (implies : ∀ entry, Holds entry → Other entry) : Adds Other first second := by
  obtain ⟨added, same, holds⟩ := adds
  exact ⟨added, same, fun entry member => implies entry (holds entry member)⟩

theorem Adds.filter_eq {p : α → Bool} (old : Adds (fun entry => p entry = true) [] first)
    (new : Adds (fun entry => p entry = false) first second) : second.filter p = first := by
  obtain ⟨first, rfl, keeps⟩ := old
  obtain ⟨added, rfl, drops⟩ := new
  rw [List.filter_append, List.filter_eq_self.mpr keeps,
    List.filter_eq_nil_iff.mpr, List.append_nil]
  intro entry member keptToo
  rw [drops entry member] at keptToo
  cases keptToo

end Adds

end Timeline
