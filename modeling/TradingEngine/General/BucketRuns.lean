/-
Runs of one bucket, for items in any order.

Items arrive one by one, and an item of another bucket than the last one closes the
run before it.  The runs closed so far have increasing buckets exactly when the
items of these runs have buckets that do not decrease: the items of the run still
open say nothing.
-/

import Mathlib.Data.List.DropRight
import Mathlib.Order.Lattice

namespace BucketRuns

variable {α β γ : Type} [LinearOrder β]

/-- The items before the last run. -/
def closedItems (bucket : α → β) (items : List α) : List α :=
  items.rdropWhile (fun item => some (bucket item) = items.getLast?.map bucket)

variable {bucket : α → β}

@[simp] theorem closedItems_nil : closedItems bucket [] = [] := rfl

theorem closedItems_append (items : List α) (item : α) :
    closedItems bucket (items ++ [item]) =
      items.rdropWhile (fun seen => bucket seen = bucket item) := by
  unfold closedItems
  rw [List.getLast?_append_of_ne_nil items (List.cons_ne_nil item []), List.getLast?_singleton,
    Option.map_some, List.rdropWhile_concat, if_pos (decide_eq_true rfl)]
  congr 1
  funext seen
  exact decide_eq_decide.mpr Option.some_inj

theorem closedItems_same {items : List α} {last item : α} (ends : items.getLast? = some last)
    (same : bucket item = bucket last) :
    closedItems bucket (items ++ [item]) = closedItems bucket items := by
  rw [closedItems_append]
  unfold closedItems
  rw [ends, Option.map_some, same]
  congr 1
  funext seen
  exact decide_eq_decide.mpr Option.some_inj.symm

theorem closedItems_other {items : List α} {last item : α} (ends : items.getLast? = some last)
    (other : bucket item ≠ bucket last) :
    closedItems bucket (items ++ [item]) = items := by
  rw [closedItems_append, List.rdropWhile_eq_self_iff]
  intro nonempty same
  have found : items.getLast nonempty = last := by
    rw [List.getLast?_eq_some_getLast nonempty] at ends
    exact Option.some_inj.mp ends
  rw [found] at same
  exact other (of_decide_eq_true same).symm

theorem closedItems_split (bucket : α → β) {items : List α} {last : α}
    (ends : items.getLast? = some last) :
    ∃ run, items = closedItems bucket items ++ run ∧ last ∈ run ∧
      ∀ item ∈ run, bucket item = bucket last := by
  obtain ⟨before, rfl⟩ := List.getLast?_eq_some_iff.mp ends
  refine ⟨before.rtakeWhile (fun seen => bucket seen = bucket last) ++ [last], ?_, ?_, ?_⟩
  · rw [closedItems_append, ← List.append_assoc, List.rdropWhile_append_rtakeWhile]
  · exact List.mem_append_right _ List.mem_cons_self
  · intro item member
    rcases List.mem_append.mp member with earlier | same
    · have inRun := List.mem_rtakeWhile_imp earlier
      exact of_decide_eq_true inRun
    · rw [List.mem_singleton.mp same]

theorem closedItems_last {items before : List α} {last closing : α}
    (ends : items.getLast? = some last)
    (closed : closedItems bucket items = before ++ [closing]) : bucket closing ≠ bucket last := by
  obtain ⟨front, rfl⟩ := List.getLast?_eq_some_iff.mp ends
  rw [closedItems_append] at closed
  have nonempty : front.rdropWhile (fun seen => bucket seen = bucket last) ≠ [] := by
    rw [closed]
    exact List.append_ne_nil_of_right_ne_nil before (List.cons_ne_nil closing [])
  have rejected := List.rdropWhile_last_not _ front nonempty
  intro same
  apply rejected
  have found : (front.rdropWhile (fun seen => bucket seen = bucket last)).getLast nonempty =
      closing := by
    rw [← Option.some_inj, ← List.getLast?_eq_some_getLast, closed, List.getLast?_concat]
  rw [found]
  exact decide_eq_true same

/-- One summary for each closed run, in the order of closing. -/
structure Summaries (bucket : α → β) (stamp : γ → β) (items : List α) (series : List γ) :
    Prop where
  stamps : ∀ b, (∃ summary ∈ series, stamp summary = b) ↔
    ∃ item ∈ closedItems bucket items, bucket item = b
  increasing_iff : series.Pairwise (fun earlier later => stamp earlier < stamp later) ↔
    (closedItems bucket items).Pairwise (fun earlier later => bucket earlier ≤ bucket later)

namespace Summaries

variable {stamp : γ → β} {items : List α} {last item : α} {series : List γ} {summary : γ}

theorem nil : Summaries bucket stamp [] ([] : List γ) :=
  { stamps := by simp
    increasing_iff := by simp }

theorem singleton (item : α) : Summaries bucket stamp [item] ([] : List γ) := by
  have none_closed : closedItems bucket [item] = [] := closedItems_append [] item
  constructor
  · rw [none_closed]
    simp
  · rw [none_closed]
    simp

theorem same (summaries : Summaries bucket stamp items series)
    (ends : items.getLast? = some last) (same : bucket item = bucket last) :
    Summaries bucket stamp (items ++ [item]) series := by
  constructor
  · rw [closedItems_same ends same]
    exact summaries.stamps
  · rw [closedItems_same ends same]
    exact summaries.increasing_iff

private theorem below_open_iff (summaries : Summaries bucket stamp items series)
    (ends : items.getLast? = some last)
    (sorted : (closedItems bucket items).Pairwise
      (fun earlier later => bucket earlier ≤ bucket later)) :
    (∀ found ∈ series, stamp found < bucket last) ↔
      ∀ seen ∈ closedItems bucket items, bucket seen ≤ bucket last := by
  constructor
  · intro below seen member
    obtain ⟨found, present, stamped⟩ := (summaries.stamps (bucket seen)).mpr ⟨seen, member, rfl⟩
    rw [← stamped]
    exact le_of_lt (below found present)
  · intro below found present
    obtain ⟨seen, member, stamped⟩ := (summaries.stamps (stamp found)).mp ⟨found, present, rfl⟩
    rw [← stamped]
    rcases List.eq_nil_or_concat' (closedItems bucket items) with
      empty | ⟨before, closing, closed⟩
    · rw [empty] at member
      cases member
    · have other := closedItems_last ends closed
      rw [closed] at sorted below member
      have closingBelow : bucket closing < bucket last :=
        lt_of_le_of_ne (below closing (List.mem_append_right _ List.mem_cons_self)) other
      rcases List.mem_append.mp member with earlier | atEnd
      · have ordered := (List.pairwise_append.mp sorted).2.2 seen earlier closing
          List.mem_cons_self
        exact lt_of_le_of_lt ordered closingBelow
      · rw [List.mem_singleton.mp atEnd]
        exact closingBelow

theorem close (summaries : Summaries bucket stamp items series)
    (ends : items.getLast? = some last) (other : bucket item ≠ bucket last)
    (stamped : stamp summary = bucket last) :
    Summaries bucket stamp (items ++ [item]) (series ++ [summary]) := by
  obtain ⟨run, split, lastMember, runBucket⟩ := closedItems_split bucket ends
  constructor
  · intro b
    rw [closedItems_other ends other, split]
    have openRun : (∃ item ∈ run, bucket item = b) ↔ bucket last = b := by
      constructor
      · rintro ⟨found, member, same⟩
        rw [← runBucket found member]
        exact same
      · intro same
        exact ⟨last, lastMember, same⟩
    simp only [List.mem_append, List.mem_singleton, or_and_right, exists_or, exists_eq_left]
    rw [summaries.stamps b, stamped, openRun]
  · rw [closedItems_other ends other, List.pairwise_append]
    have orderedItems : items.Pairwise (fun earlier later => bucket earlier ≤ bucket later) ↔
        (closedItems bucket items).Pairwise
            (fun earlier later => bucket earlier ≤ bucket later) ∧
          ∀ seen ∈ closedItems bucket items, bucket seen ≤ bucket last := by
      conv_lhs => rw [split]
      rw [List.pairwise_append]
      constructor
      · intro ordered
        exact ⟨ordered.1, fun seen member => ordered.2.2 seen member last lastMember⟩
      · intro ordered
        refine ⟨ordered.1, ?_, ?_⟩
        · apply List.pairwise_of_forall_mem_list
          intro earlier earlierMember later laterMember
          rw [runBucket earlier earlierMember, runBucket later laterMember]
        · intro seen member found present
          rw [runBucket found present]
          exact ordered.2 seen member
    rw [orderedItems, summaries.increasing_iff]
    constructor
    · intro ordered
      refine ⟨ordered.1, (below_open_iff summaries ends ordered.1).mp ?_⟩
      intro found member
      rw [← stamped]
      exact ordered.2.2 found member summary List.mem_cons_self
    · intro ordered
      refine ⟨ordered.1, List.pairwise_singleton _ _, ?_⟩
      intro found member closed atEnd
      rw [List.mem_singleton.mp atEnd, stamped]
      exact (below_open_iff summaries ends ordered.1).mpr ordered.2 found member

end Summaries

end BucketRuns
