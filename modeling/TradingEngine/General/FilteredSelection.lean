/-
A disjoint selection that is filtered afterwards.

The scan keeps an item when its labels are new, whether or not the item survives the
filter, so an item can be dropped for one that is dropped later.  Every dropped item
has a surviving rival before it exactly when the items kept by the scan in which only
survivors take their labels are disjoint.
-/

import TradingEngine.General.DisjointSelection

namespace DisjointSelection

variable {α τ : Type} [DecidableEq τ] (labels : α → Finset τ)

/-- The scan in which only some of the kept items take their labels. -/
def keepTaking (takes : α → Prop) [DecidablePred takes] : Finset τ → List α → List α
  | _, [] => []
  | seen, item :: rest =>
      if Disjoint (labels item) seen then
        item :: keepTaking takes (if takes item then seen ∪ labels item else seen) rest
      else keepTaking takes seen rest

theorem keepTaking_all (seen : Finset τ) (items : List α) :
    keepTaking labels (fun _item => True) seen items = keepDisjoint labels seen items := by
  induction items generalizing seen with
  | nil => rfl
  | cons item rest ih =>
      unfold keepTaking keepDisjoint
      rw [if_pos trivial, ih, ih]

theorem keepTaking_sublist {takes : α → Prop} [DecidablePred takes] (seen : Finset τ)
    (items : List α) : (keepTaking labels takes seen items).Sublist items := by
  induction items generalizing seen with
  | nil => exact List.Sublist.slnil
  | cons item rest ih =>
      unfold keepTaking
      split_ifs
      · exact (ih _).cons_cons item
      · exact (ih _).cons_cons item
      · exact (ih seen).cons item

section Append

variable {takes : α → Prop} [DecidablePred takes]

private theorem keepTaking_cons_new {seen : Finset τ} {item : α} (rest : List α)
    (new : Disjoint (labels item) seen) :
    keepTaking labels takes seen (item :: rest) =
      item :: keepTaking labels takes (if takes item then seen ∪ labels item else seen) rest :=
  if_pos new

private theorem keepTaking_cons_old {seen : Finset τ} {item : α} (rest : List α)
    (old : ¬ Disjoint (labels item) seen) :
    keepTaking labels takes seen (item :: rest) = keepTaking labels takes seen rest :=
  if_neg old

/-- The labels that a scan has seen after a prefix. -/
def seenAfter (takes : α → Prop) [DecidablePred takes] (seen : Finset τ) (before : List α) :
    Finset τ :=
  (keepTaking labels takes seen before).foldl
    (fun seen kept => if takes kept then seen ∪ labels kept else seen) seen

theorem keepTaking_append (seen : Finset τ) (before rest : List α) :
    keepTaking labels takes seen (before ++ rest) =
      keepTaking labels takes seen before ++
        keepTaking labels takes (seenAfter labels takes seen before) rest := by
  induction before generalizing seen with
  | nil => rfl
  | cons head before ih =>
      unfold seenAfter at ih ⊢
      rw [List.cons_append]
      by_cases new : Disjoint (labels head) seen
      · rw [keepTaking_cons_new labels _ new, keepTaking_cons_new labels _ new, ih,
          List.cons_append, List.foldl_cons]
      · rw [keepTaking_cons_old labels _ new, keepTaking_cons_old labels _ new, ih]

private theorem disjoint_taken_iff (parts seen : Finset τ) (kept : List α) :
    Disjoint parts
        (kept.foldl (fun seen item => if takes item then seen ∪ labels item else seen) seen) ↔
      Disjoint parts seen ∧ ∀ item ∈ kept, takes item → Disjoint parts (labels item) := by
  induction kept generalizing seen with
  | nil => simp
  | cons head rest ih =>
      rw [List.foldl_cons, ih, List.forall_mem_cons]
      by_cases taken : takes head
      · rw [if_pos taken, Finset.disjoint_union_right, and_assoc]
        simp [taken]
      · rw [if_neg taken]
        simp [taken]

theorem disjoint_seenAfter_iff (parts : Finset τ) (before : List α) :
    Disjoint parts (seenAfter labels takes ∅ before) ↔
      ∀ kept ∈ keepTaking labels takes ∅ before, takes kept → Disjoint parts (labels kept) := by
  unfold seenAfter
  rw [disjoint_taken_iff]
  simp

theorem keepTaking_concat_of_disjoint {items : List α} {item : α}
    (apart : ∀ kept ∈ keepTaking labels takes ∅ items, takes kept →
      Disjoint (labels item) (labels kept)) :
    keepTaking labels takes ∅ (items ++ [item]) =
      keepTaking labels takes ∅ items ++ [item] := by
  have new := (disjoint_seenAfter_iff labels (labels item) items).mpr apart
  rw [keepTaking_append, keepTaking_cons_new labels [] new]
  rfl

theorem keepTaking_append_of_overlap {items rest : List α} {item : α}
    (met : ∃ kept ∈ keepTaking labels takes ∅ items, takes kept ∧
      ¬ Disjoint (labels item) (labels kept)) :
    keepTaking labels takes ∅ (items ++ item :: rest) =
      keepTaking labels takes ∅ (items ++ rest) := by
  have old : ¬ Disjoint (labels item) (seenAfter labels takes ∅ items) := by
    intro apart
    obtain ⟨kept, member, taken, overlap⟩ := met
    exact overlap ((disjoint_seenAfter_iff labels (labels item) items).mp apart kept member taken)
  rw [keepTaking_append, keepTaking_append, keepTaking_cons_old labels rest old]

theorem keepTaking_concat_of_overlap {items : List α} {item : α}
    (met : ∃ kept ∈ keepTaking labels takes ∅ items, takes kept ∧
      ¬ Disjoint (labels item) (labels kept)) :
    keepTaking labels takes ∅ (items ++ [item]) = keepTaking labels takes ∅ items := by
  rw [keepTaking_append_of_overlap labels met, List.append_nil]

end Append

/-! ### The plain scan -/

theorem keepDisjoint_isPrefix (before rest : List α) :
    keepDisjoint labels ∅ before <+: keepDisjoint labels ∅ (before ++ rest) := by
  rw [← keepTaking_all, ← keepTaking_all, keepTaking_append]
  exact List.prefix_append _ _

theorem mem_of_mem_keepDisjoint_append {before rest : List α} {item : α}
    (member : item ∈ keepDisjoint labels ∅ (before ++ rest)) :
    item ∈ keepDisjoint labels ∅ before ∨ item ∈ rest := by
  rw [← keepTaking_all, keepTaking_append, keepTaking_all] at member
  rcases List.mem_append.mp member with earlier | later
  · exact Or.inl earlier
  · exact Or.inr ((keepTaking_sublist labels _ rest).subset later)

theorem keepDisjoint_append_of_overlap {items rest : List α} {item : α}
    (met : ∃ kept ∈ keepDisjoint labels ∅ items, ¬ Disjoint (labels item) (labels kept)) :
    keepDisjoint labels ∅ (items ++ item :: rest) = keepDisjoint labels ∅ (items ++ rest) := by
  obtain ⟨kept, member, overlap⟩ := met
  rw [← keepTaking_all] at member
  rw [← keepTaking_all, ← keepTaking_all]
  exact keepTaking_append_of_overlap labels ⟨kept, member, trivial, overlap⟩

private theorem dropOverlapping_cons_new {seen : Finset τ} {item : α} (rest : List α)
    (new : Disjoint (labels item) seen) :
    dropOverlapping labels seen (item :: rest) =
      dropOverlapping labels (seen ∪ labels item) rest :=
  if_pos new

private theorem dropOverlapping_cons_old {seen : Finset τ} {item : α} (rest : List α)
    (old : ¬ Disjoint (labels item) seen) :
    dropOverlapping labels seen (item :: rest) = item :: dropOverlapping labels seen rest :=
  if_neg old

theorem dropOverlapping_append (seen : Finset τ) (before rest : List α) :
    dropOverlapping labels seen (before ++ rest) =
      dropOverlapping labels seen before ++
        dropOverlapping labels (seenAfter labels (fun _item => True) seen before) rest := by
  induction before generalizing seen with
  | nil => rfl
  | cons head before ih =>
      unfold seenAfter at ih ⊢
      rw [List.cons_append]
      by_cases new : Disjoint (labels head) seen
      · rw [dropOverlapping_cons_new labels _ new, dropOverlapping_cons_new labels _ new, ih,
          keepTaking_cons_new labels before new, if_pos trivial, List.foldl_cons,
          if_pos trivial]
      · rw [dropOverlapping_cons_old labels _ new, dropOverlapping_cons_old labels _ new,
          ih, keepTaking_cons_old labels before new, List.cons_append]

theorem split_concat_cases {items before after : List α} {last item : α}
    (split : items ++ [last] = before ++ item :: after) :
    (before = items ∧ item = last) ∨ ∃ front, items = before ++ item :: front := by
  rcases List.eq_nil_or_concat' after with rfl | ⟨front, other, rfl⟩
  · obtain ⟨rfl, same⟩ := List.append_inj' split rfl
    cases same
    exact Or.inl ⟨rfl, rfl⟩
  · rw [← List.cons_append, ← List.append_assoc] at split
    exact Or.inr ⟨front, (List.append_inj' split rfl).1⟩

theorem mem_dropOverlapping_iff {items : List α} {item : α} :
    item ∈ dropOverlapping labels ∅ items ↔
      ∃ before after, items = before ++ item :: after ∧
        ∃ kept ∈ keepDisjoint labels ∅ before, ¬ Disjoint (labels item) (labels kept) := by
  have overlaps : ∀ (parts : Finset τ) (before : List α),
      ¬ Disjoint parts (seenAfter labels (fun _item => True) ∅ before) ↔
        ∃ kept ∈ keepDisjoint labels ∅ before, ¬ Disjoint parts (labels kept) := by
    intro parts before
    simp only [disjoint_seenAfter_iff, keepTaking_all, not_forall, exists_prop, true_imp_iff]
  induction items using List.reverseRecOn with
  | nil => simp [dropOverlapping]
  | append_singleton items last ih =>
      have atEnd : item ∈ dropOverlapping labels
            (seenAfter labels (fun _item => True) ∅ items) [last] ↔
          item = last ∧
            ∃ kept ∈ keepDisjoint labels ∅ items, ¬ Disjoint (labels item) (labels kept) := by
        rw [← overlaps]
        unfold dropOverlapping dropOverlapping
        split_ifs with new
        · simpa using fun same : item = last => same ▸ new
        · simpa using fun same : item = last => same ▸ new
      rw [dropOverlapping_append, List.mem_append]
      refine (or_congr ih atEnd).trans ?_
      constructor
      · rintro (⟨before, after, rfl, met⟩ | ⟨rfl, met⟩)
        · exact ⟨before, after ++ [last], by simp, met⟩
        · exact ⟨items, [], rfl, met⟩
      · rintro ⟨before, after, split, met⟩
        rcases split_concat_cases split with ⟨rfl, rfl⟩ | ⟨front, rfl⟩
        · exact Or.inr ⟨rfl, met⟩
        · exact Or.inl ⟨before, front, rfl, met⟩

section Survivors

variable (blocked : Finset τ)

/-- What the scan keeps and the filter does not drop. -/
def survivors (items : List α) : List α :=
  (keepDisjoint labels ∅ items).filter (fun item => Disjoint (labels item) blocked)

/-- Every item that the scan drops shares a label with a survivor before it. -/
def DroppedForSurvivors (items : List α) : Prop :=
  ∀ before item after, items = before ++ item :: after →
    (∃ kept ∈ keepDisjoint labels ∅ before, ¬ Disjoint (labels item) (labels kept)) →
      ∃ survivor ∈ survivors labels blocked before, ¬ Disjoint (labels item) (labels survivor)

/-- The scan in which only items free of blocked labels take their labels. -/
def keepBesideClear (items : List α) : List α :=
  keepTaking labels (fun item => Disjoint (labels item) blocked) ∅ items

theorem droppedForSurvivors_concat (items : List α) (item : α) :
    DroppedForSurvivors labels blocked (items ++ [item]) ↔
      DroppedForSurvivors labels blocked items ∧
        ((∃ kept ∈ keepDisjoint labels ∅ items, ¬ Disjoint (labels item) (labels kept)) →
          ∃ survivor ∈ survivors labels blocked items,
            ¬ Disjoint (labels item) (labels survivor)) := by
  constructor
  · intro all
    constructor
    · intro before dropped after split
      apply all before dropped (after ++ [item])
      rw [split, List.append_assoc, List.cons_append]
    · exact all items item [] rfl
  · intro parts before dropped after split
    rcases split_concat_cases split with ⟨rfl, rfl⟩ | ⟨front, earlier⟩
    · exact parts.2
    · exact parts.1 before dropped front earlier

private theorem keepDisjoint_concat_of_disjoint {items : List α} {item : α}
    (apart : ∀ kept ∈ keepDisjoint labels ∅ items, Disjoint (labels item) (labels kept)) :
    keepDisjoint labels ∅ (items ++ [item]) = keepDisjoint labels ∅ items ++ [item] := by
  rw [← keepTaking_all, ← keepTaking_all]
  apply keepTaking_concat_of_disjoint labels
  intro kept member _taken
  rw [keepTaking_all] at member
  exact apart kept member

private theorem keepDisjoint_concat_of_overlap {items : List α} {item : α}
    (met : ∃ kept ∈ keepDisjoint labels ∅ items, ¬ Disjoint (labels item) (labels kept)) :
    keepDisjoint labels ∅ (items ++ [item]) = keepDisjoint labels ∅ items := by
  rw [keepDisjoint_append_of_overlap labels met, List.append_nil]

private theorem overlap_survivor_iff {items : List α} {item : α}
    (agree : keepBesideClear labels blocked items = keepDisjoint labels ∅ items) :
    (∃ survivor ∈ survivors labels blocked items, ¬ Disjoint (labels item) (labels survivor)) ↔
      ∃ kept ∈ keepBesideClear labels blocked items,
        Disjoint (labels kept) blocked ∧ ¬ Disjoint (labels item) (labels kept) := by
  unfold survivors
  simp only [List.mem_filter, decide_eq_true_eq, agree, and_assoc]

private theorem keepBesideClear_eq {items : List α}
    (dropped : DroppedForSurvivors labels blocked items) :
    keepBesideClear labels blocked items = keepDisjoint labels ∅ items := by
  induction items using List.reverseRecOn with
  | nil => rfl
  | append_singleton items item ih =>
      obtain ⟨before, last⟩ := (droppedForSurvivors_concat labels blocked items item).mp dropped
      have agree := ih before
      by_cases met : ∃ kept ∈ keepDisjoint labels ∅ items, ¬ Disjoint (labels item) (labels kept)
      · rw [keepDisjoint_concat_of_overlap labels met, ← agree]
        exact keepTaking_concat_of_overlap labels
          ((overlap_survivor_iff labels blocked agree).mp (last met))
      · push Not at met
        rw [keepDisjoint_concat_of_disjoint labels met, ← agree]
        apply keepTaking_concat_of_disjoint labels
        intro kept member _clear
        change kept ∈ keepBesideClear labels blocked items at member
        rw [agree] at member
        exact met kept member

theorem droppedForSurvivors_iff (items : List α) :
    DroppedForSurvivors labels blocked items ↔
      (keepBesideClear labels blocked items).Pairwise
        (fun left right => Disjoint (labels left) (labels right)) := by
  constructor
  · intro dropped
    rw [keepBesideClear_eq labels blocked dropped]
    exact keepDisjoint_pairwise labels ∅ items
  · induction items using List.reverseRecOn with
    | nil =>
        intro _apart before item after split
        exact absurd split (by simp)
    | append_singleton items item ih =>
        intro apart
        rw [droppedForSurvivors_concat]
        by_cases met : ∃ kept ∈ keepBesideClear labels blocked items,
            Disjoint (labels kept) blocked ∧ ¬ Disjoint (labels item) (labels kept)
        · have same := keepTaking_concat_of_overlap labels met
          unfold keepBesideClear at apart
          rw [same] at apart
          have before := ih apart
          have agree := keepBesideClear_eq labels blocked before
          exact ⟨before, fun _rival => (overlap_survivor_iff labels blocked agree).mpr met⟩
        · push Not at met
          have grown := keepTaking_concat_of_disjoint labels met
          unfold keepBesideClear at apart
          rw [grown] at apart
          obtain ⟨apartBefore, _, last⟩ := List.pairwise_append.mp apart
          have before := ih apartBefore
          have agree := keepBesideClear_eq labels blocked before
          refine ⟨before, ?_⟩
          rintro ⟨kept, member, overlap⟩
          rw [← agree] at member
          exact absurd (last kept member item List.mem_cons_self).symm overlap

end Survivors

end DisjointSelection
