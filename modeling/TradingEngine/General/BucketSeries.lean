/-
Series of summaries, one for each bucket.

Items fall into buckets.  A list of summaries covers a list of items when the
stamps increase, they are the buckets that occur, and every summary describes
the items of its bucket.  An item of the last bucket renews the last summary, an
item of a later bucket adds one.
-/

import Mathlib.Data.List.Basic
import Mathlib.Order.Lattice

namespace BucketSeries

variable {α β γ : Type} [LinearOrder β]

structure Covers (bucket : α → β) (stamp : γ → β) (Describes : List α → γ → Prop)
    (items : List α) (series : List γ) : Prop where
  increasing : series.Pairwise (fun earlier later => stamp earlier < stamp later)
  stamps : ∀ b, (∃ summary ∈ series, stamp summary = b) ↔ ∃ item ∈ items, bucket item = b
  describes : ∀ summary ∈ series,
    Describes (items.filter (fun item => bucket item = stamp summary)) summary

namespace Covers

variable {bucket : α → β} {stamp : γ → β} {Describes : List α → γ → Prop}
  {items : List α} {item : α} {series : List γ} {summary renewed : γ}

theorem nil : Covers bucket stamp Describes [] [] :=
  { increasing := List.Pairwise.nil
    stamps := by simp
    describes := by simp }

theorem le_last (covers : Covers bucket stamp Describes items (series ++ [summary])) :
    ∀ item ∈ items, bucket item ≤ stamp summary := by
  intro item member
  obtain ⟨found, present, same⟩ := (covers.stamps (bucket item)).mpr ⟨item, member, rfl⟩
  rw [← same]
  rcases List.mem_append.mp present with earlier | last
  · exact le_of_lt ((List.pairwise_append.mp covers.increasing).2.2 found earlier summary
      List.mem_cons_self)
  · rw [List.mem_singleton.mp last]

private theorem filter_append_other (other : bucket item ≠ stamp summary) :
    (items ++ [item]).filter (fun item => bucket item = stamp summary) =
      items.filter (fun item => bucket item = stamp summary) := by
  rw [List.filter_append, List.filter_singleton, decide_eq_false other, cond_false,
    List.append_nil]

private theorem filter_append_own (own : bucket item = stamp summary) :
    (items ++ [item]).filter (fun item => bucket item = stamp summary) =
      items.filter (fun item => bucket item = stamp summary) ++ [item] := by
  rw [List.filter_append, List.filter_singleton, decide_eq_true own, cond_true]

theorem renew (covers : Covers bucket stamp Describes items (series ++ [summary]))
    (own : bucket item = stamp summary) (sameStamp : stamp renewed = stamp summary)
    (described : ∀ seen, Describes seen summary → Describes (seen ++ [item]) renewed) :
    Covers bucket stamp Describes (items ++ [item]) (series ++ [renewed]) := by
  obtain ⟨before, _, ordered⟩ := List.pairwise_append.mp covers.increasing
  constructor
  · refine List.pairwise_append.mpr ⟨before, List.pairwise_singleton _ _, ?_⟩
    intro earlier member last lastMember
    rw [List.mem_singleton.mp lastMember, sameStamp]
    exact ordered earlier member summary List.mem_cons_self
  · intro b
    have known := covers.stamps b
    simp only [List.mem_append, List.mem_singleton, or_and_right, exists_or, exists_eq_left]
      at known ⊢
    rw [sameStamp, own, known]
    constructor
    · exact Or.inl
    · rintro (present | same)
      · exact present
      · exact known.mp (Or.inr same)
  · intro found member
    rcases List.mem_append.mp member with earlier | last
    · have older := ordered found earlier summary List.mem_cons_self
      rw [filter_append_other (own ▸ ne_of_gt older)]
      exact covers.describes found (List.mem_append_left _ earlier)
    · rw [List.mem_singleton.mp last, filter_append_own (own.trans sameStamp.symm), sameStamp]
      exact described _ (covers.describes summary (List.mem_append_right _ List.mem_cons_self))

theorem append (covers : Covers bucket stamp Describes items series)
    (later : ∀ seen ∈ items, bucket seen < bucket item) (own : bucket item = stamp summary)
    (described : Describes [item] summary) :
    Covers bucket stamp Describes (items ++ [item]) (series ++ [summary]) := by
  have older : ∀ found ∈ series, stamp found < stamp summary := by
    intro found member
    obtain ⟨seen, seenMember, same⟩ := (covers.stamps (stamp found)).mp ⟨found, member, rfl⟩
    rw [← same, ← own]
    exact later seen seenMember
  constructor
  · refine List.pairwise_append.mpr ⟨covers.increasing, List.pairwise_singleton _ _, ?_⟩
    intro earlier member last lastMember
    rw [List.mem_singleton.mp lastMember]
    exact older earlier member
  · intro b
    have known := covers.stamps b
    simp only [List.mem_append, List.mem_singleton, or_and_right, exists_or, exists_eq_left]
    rw [known, own]
  · intro found member
    rcases List.mem_append.mp member with earlier | last
    · rw [filter_append_other (own ▸ ne_of_gt (older found earlier))]
      exact covers.describes found earlier
    · rw [List.mem_singleton.mp last, filter_append_own own]
      have noneBefore : items.filter (fun item => bucket item = stamp summary) = [] := by
        apply List.filter_eq_nil_iff.mpr
        intro seen seenMember same
        exact absurd (own.trans (of_decide_eq_true same).symm)
          (ne_of_gt (later seen seenMember))
      rw [noneBefore]
      exact described

end Covers

end BucketSeries
