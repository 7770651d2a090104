/-
Greedy selection of items with pairwise disjoint label sets.

`keepDisjoint` scans a list from the left and keeps an item when its labels
avoid the labels seen so far, which then grow by the item's own.  The kept
items form a sublist, avoid the initial labels and each other, and a list that
already has both properties is kept as it is.
-/

import Mathlib.Data.Finset.Basic
import Mathlib.Data.List.Basic
import Mathlib.Data.Finset.Lattice.Lemmas

namespace DisjointSelection

variable {α τ : Type} [DecidableEq τ]

/-- The items whose labels are new at their turn. -/
def keepDisjoint (labels : α → Finset τ) : Finset τ → List α → List α
  | _, [] => []
  | seen, item :: rest =>
      if Disjoint (labels item) seen then
        item :: keepDisjoint labels (seen ∪ labels item) rest
      else keepDisjoint labels seen rest

def dropOverlapping (labels : α → Finset τ) : Finset τ → List α → List α
  | _, [] => []
  | seen, item :: rest =>
      if Disjoint (labels item) seen then
        dropOverlapping labels (seen ∪ labels item) rest
      else item :: dropOverlapping labels seen rest

variable (labels : α → Finset τ)

theorem keepDisjoint_sublist (seen : Finset τ) (items : List α) :
    (keepDisjoint labels seen items).Sublist items := by
  induction items generalizing seen with
  | nil => exact List.Sublist.slnil
  | cons item rest ih =>
      unfold keepDisjoint
      split_ifs
      · exact (ih (seen ∪ labels item)).cons_cons item
      · exact (ih seen).cons item

theorem disjoint_seen_of_mem_keepDisjoint {seen : Finset τ} {items : List α} {item : α}
    (member : item ∈ keepDisjoint labels seen items) : Disjoint (labels item) seen := by
  induction items generalizing seen with
  | nil => contradiction
  | cons head rest ih =>
      unfold keepDisjoint at member
      split_ifs at member with fresh
      · rcases List.mem_cons.mp member with same | later
        · subst item
          exact fresh
        · exact (Finset.disjoint_union_right.mp (ih later)).1
      · exact ih member

theorem keepDisjoint_pairwise (seen : Finset τ) (items : List α) :
    (keepDisjoint labels seen items).Pairwise
      (fun left right => Disjoint (labels left) (labels right)) := by
  induction items generalizing seen with
  | nil => exact List.Pairwise.nil
  | cons item rest ih =>
      unfold keepDisjoint
      split_ifs
      · apply List.pairwise_cons.mpr
        constructor
        · intro later member
          have avoids := disjoint_seen_of_mem_keepDisjoint labels member
          exact (Finset.disjoint_union_right.mp avoids).2.symm
        · exact ih (seen ∪ labels item)
      · exact ih seen

theorem keepDisjoint_map {β : Type} (f : β → α) (seen : Finset τ) (items : List β) :
    keepDisjoint labels seen (items.map f) =
      (keepDisjoint (fun item => labels (f item)) seen items).map f := by
  induction items generalizing seen with
  | nil => rfl
  | cons item rest ih =>
      rw [List.map_cons]
      unfold keepDisjoint
      split_ifs
      · rw [ih, List.map_cons]
      · exact ih seen

/-! ### Two granularities

Items carry a name, and the name carries a nonempty label set.  A fine scan
keeps items by labels and then removes those meeting the blocked labels; a
coarse scan keeps items by name only, starting from the blocked names.
-/

section Granularity

variable {ν : Type} [DecidableEq ν] (name : α → ν) (labelsOf : ν → Finset τ)
  (blocked : Finset τ)

/-- Keep by labels, then drop what meets a blocked label. -/
def fineScan (seen : Finset τ) (items : List α) : List α :=
  (keepDisjoint (fun item => labelsOf (name item)) seen items).filter
    (fun item => Disjoint (labelsOf (name item)) blocked)

/-- Keep the first item of every name not seen before. -/
def coarseScan (seen : Finset ν) (items : List α) : List α :=
  keepDisjoint (fun item => {name item}) seen items

omit [DecidableEq τ] in
theorem coarseScan_names_nodup (seen : Finset ν) (items : List α) :
    ((coarseScan name seen items).map name).Nodup := by
  apply List.Pairwise.map _ _ (keepDisjoint_pairwise (fun item => {name item}) seen items)
  intro left right apart same
  rw [same] at apart
  exact Finset.singleton_ne_empty _ (disjoint_self.mp apart)

private theorem coarse_cons_new {seen : Finset ν} {item : α} (rest : List α)
    (fresh : name item ∉ seen) :
    coarseScan name seen (item :: rest) =
      item :: coarseScan name (seen ∪ {name item}) rest := by
  simp [coarseScan, keepDisjoint, fresh]

private theorem coarse_cons_seen {seen : Finset ν} {item : α} (rest : List α)
    (old : name item ∈ seen) :
    coarseScan name seen (item :: rest) = coarseScan name seen rest := by
  simp [coarseScan, keepDisjoint, old]

omit [DecidableEq ν] in
private theorem fine_cons_kept {seen : Finset τ} {item : α} (rest : List α)
    (fresh : Disjoint (labelsOf (name item)) seen)
    (clear : Disjoint (labelsOf (name item)) blocked) :
    fineScan name labelsOf blocked seen (item :: rest) =
      item :: fineScan name labelsOf blocked (seen ∪ labelsOf (name item)) rest := by
  simp only [fineScan, keepDisjoint, if_pos fresh]
  exact List.filter_cons_of_pos (by simpa using clear)

omit [DecidableEq ν] in
private theorem fine_cons_blocked {seen : Finset τ} {item : α} (rest : List α)
    (fresh : Disjoint (labelsOf (name item)) seen)
    (held : ¬ Disjoint (labelsOf (name item)) blocked) :
    fineScan name labelsOf blocked seen (item :: rest) =
      fineScan name labelsOf blocked (seen ∪ labelsOf (name item)) rest := by
  simp only [fineScan, keepDisjoint, if_pos fresh]
  exact List.filter_cons_of_neg (by simpa using held)

omit [DecidableEq ν] in
private theorem fine_cons_seen {seen : Finset τ} {item : α} (rest : List α)
    (met : ¬ Disjoint (labelsOf (name item)) seen) :
    fineScan name labelsOf blocked seen (item :: rest) =
      fineScan name labelsOf blocked seen rest := by
  simp only [fineScan, keepDisjoint, if_neg met]

/-- The fine scan keeps a sublist of the coarse one.  The induction carries that
every name the coarse scan has seen meets a blocked label or a seen label. -/
theorem fineScan_sublist_coarseScan (nonempty : ∀ n, (labelsOf n).Nonempty)
    (items : List α) (seenLabels : Finset τ) (seenNames : Finset ν)
    (accounted : ∀ n ∈ seenNames,
      ¬ Disjoint (labelsOf n) blocked ∨ ¬ Disjoint (labelsOf n) seenLabels) :
    (fineScan name labelsOf blocked seenLabels items).Sublist
      (coarseScan name seenNames items) := by
  induction items generalizing seenLabels seenNames with
  | nil => exact List.Sublist.slnil
  | cons item rest ih =>
      have grown : ∀ n ∈ seenNames ∪ {name item}, ¬ Disjoint (labelsOf n) blocked ∨
          ¬ Disjoint (labelsOf n) (seenLabels ∪ labelsOf (name item)) := by
        intro n member
        rcases Finset.mem_union.mp member with old | new
        · rcases accounted n old with held | met
          · exact Or.inl held
          · exact Or.inr (fun apart => met (Finset.disjoint_union_right.mp apart).1)
        · rw [Finset.mem_singleton.mp new]
          right
          intro apart
          have self := (Finset.disjoint_union_right.mp apart).2
          exact (nonempty (name item)).ne_empty (disjoint_self.mp self)
      by_cases fresh : Disjoint (labelsOf (name item)) seenLabels
      · by_cases clear : Disjoint (labelsOf (name item)) blocked
        · have unseen : name item ∉ seenNames := by
            intro old
            rcases accounted (name item) old with held | met
            · exact held clear
            · exact met fresh
          rw [coarse_cons_new name rest unseen,
            fine_cons_kept name labelsOf blocked rest fresh clear]
          exact (ih _ _ grown).cons_cons item
        · have later := ih (seenLabels ∪ labelsOf (name item)) (seenNames ∪ {name item}) grown
          rw [fine_cons_blocked name labelsOf blocked rest fresh clear]
          by_cases old : name item ∈ seenNames
          · rw [coarse_cons_seen name rest old]
            have same : seenNames ∪ {name item} = seenNames :=
              Finset.union_eq_left.mpr (Finset.singleton_subset_iff.mpr old)
            rw [same] at later
            exact later
          · rw [coarse_cons_new name rest old]
            exact later.cons item
      · rw [fine_cons_seen name labelsOf blocked rest fresh]
        by_cases old : name item ∈ seenNames
        · rw [coarse_cons_seen name rest old]
          exact ih seenLabels seenNames accounted
        · rw [coarse_cons_new name rest old]
          apply List.Sublist.cons
          apply ih
          intro n member
          rcases Finset.mem_union.mp member with before | new
          · exact accounted n before
          · rw [Finset.mem_singleton.mp new]
            exact Or.inr fresh

/-- While the coarse choices have disjoint labels that avoid the blocked ones,
the fine scan makes the same choices.  `taken` collects the labels of the
coarse choices so far; the fine scan has seen nothing beyond those and the
blocked labels. -/
theorem fineScan_take_eq_of_clear (nonempty : ∀ n, (labelsOf n).Nonempty)
    (items : List α) (seenLabels taken : Finset τ) (seenNames : Finset ν) (count : ℕ)
    (accounted : ∀ n ∈ seenNames, labelsOf n ⊆ blocked ∨ labelsOf n ⊆ seenLabels)
    (bounded : seenLabels ⊆ blocked ∪ taken)
    (clear : ∀ item ∈ (coarseScan name seenNames items).take count,
      Disjoint (labelsOf (name item)) (blocked ∪ taken))
    (apart : ((coarseScan name seenNames items).take count).Pairwise
      (fun left right => Disjoint (labelsOf (name left)) (labelsOf (name right)))) :
    (fineScan name labelsOf blocked seenLabels items).take count =
      (coarseScan name seenNames items).take count := by
  induction items generalizing seenLabels taken seenNames count with
  | nil => simp [fineScan, coarseScan, keepDisjoint]
  | cons item rest ih =>
      by_cases old : name item ∈ seenNames
      · rw [coarse_cons_seen name rest old] at clear apart ⊢
        by_cases fresh : Disjoint (labelsOf (name item)) seenLabels
        · -- The name is blocked: only a blocked name escapes the seen labels.
          have inBlocked : labelsOf (name item) ⊆ blocked := by
            rcases accounted (name item) old with held | met
            · exact held
            · have empty := disjoint_self.mp (fresh.mono_right met)
              exact absurd empty (nonempty (name item)).ne_empty
          have held : ¬ Disjoint (labelsOf (name item)) blocked := by
            intro away
            have empty := disjoint_self.mp (away.mono_right inBlocked)
            exact (nonempty (name item)).ne_empty empty
          rw [fine_cons_blocked name labelsOf blocked rest fresh held]
          apply ih (seenLabels ∪ labelsOf (name item)) taken seenNames count _ _ clear apart
          · intro n member
            rcases accounted n member with within | within
            · exact Or.inl within
            · exact Or.inr (within.trans Finset.subset_union_left)
          · exact Finset.union_subset bounded
              (inBlocked.trans Finset.subset_union_left)
        · rw [fine_cons_seen name labelsOf blocked rest fresh]
          exact ih seenLabels taken seenNames count accounted bounded clear apart
      · rw [coarse_cons_new name rest old] at clear apart ⊢
        cases count with
        | zero => rfl
        | succ count =>
            simp only [List.take_succ_cons] at clear apart ⊢
            have away := clear item List.mem_cons_self
            have fresh : Disjoint (labelsOf (name item)) seenLabels :=
              away.mono_right bounded
            rw [fine_cons_kept name labelsOf blocked rest fresh
              (away.mono_right Finset.subset_union_left), List.take_succ_cons]
            apply congrArg (List.cons item)
            apply ih _ (taken ∪ labelsOf (name item))
            · intro n member
              rcases Finset.mem_union.mp member with before | new
              · rcases accounted n before with within | within
                · exact Or.inl within
                · exact Or.inr (within.trans Finset.subset_union_left)
              · rw [Finset.mem_singleton.mp new]
                exact Or.inr Finset.subset_union_right
            · rw [← Finset.union_assoc]
              exact Finset.union_subset_union_left bounded
            · intro later member
              have first := clear later (List.mem_cons_of_mem item member)
              have second := (List.pairwise_cons.mp apart).1 later member
              rw [← Finset.union_assoc]
              exact Finset.disjoint_union_right.mpr ⟨first, second.symm⟩
            · exact (List.pairwise_cons.mp apart).2

end Granularity

omit [DecidableEq τ] in
theorem sublist_eq_of_mem_iff {whole left right : List α} (distinct : whole.Nodup)
    (leftPart : left.Sublist whole) (rightPart : right.Sublist whole)
    (same : ∀ item, item ∈ left ↔ item ∈ right) : left = right := by
  induction whole generalizing left right with
  | nil => rw [List.sublist_nil.mp leftPart, List.sublist_nil.mp rightPart]
  | cons head rest ih =>
      obtain ⟨absent, restDistinct⟩ := List.nodup_cons.mp distinct
      cases leftPart with
      | cons _ leftRest =>
          cases rightPart with
          | cons _ rightRest => exact ih restDistinct leftRest rightRest same
          | cons_cons _ rightRest =>
              exact absurd (leftRest.subset ((same head).mpr List.mem_cons_self)) absent
      | @cons_cons leftTail _ _ leftRest =>
          cases rightPart with
          | cons _ rightRest =>
              exact absurd (rightRest.subset ((same head).mp List.mem_cons_self)) absent
          | @cons_cons rightTail _ _ rightRest =>
              apply congrArg (List.cons head)
              apply ih restDistinct leftRest rightRest
              intro item
              have whole := same item
              simp only [List.mem_cons] at whole
              constructor
              · intro member
                rcases whole.mp (Or.inr member) with atHead | later
                · exact absurd (leftRest.subset (atHead ▸ member)) absent
                · exact later
              · intro member
                rcases whole.mpr (Or.inr member) with atHead | later
                · exact absurd (rightRest.subset (atHead ▸ member)) absent
                · exact later

end DisjointSelection
