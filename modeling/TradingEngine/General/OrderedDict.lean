/-
Finite dictionaries that keep the order in which their keys were first set.

Assigning to a present key keeps its place, assigning to a new key appends it,
and deletion removes it.  Distinctness of the keys is a field, so every lookup
has one answer and membership of a binding determines it.  `total` adds a
weight over the bindings; the laws below say how it changes under assignment
and deletion and how it splits along a list of keys.
-/

import Mathlib.Algebra.BigOperators.Group.List.Basic
import Mathlib.Algebra.Order.BigOperators.Group.List
import Mathlib.Data.List.Dedup
import Mathlib.Data.List.Nodup
import Mathlib.Tactic.Abel

structure OrderedDict (κ ν : Type) where
  entries : List (κ × ν)
  distinct : (entries.map Prod.fst).Nodup

namespace OrderedDict

variable {κ ν M : Type}

def empty : OrderedDict κ ν :=
  { entries := []
    distinct := List.nodup_nil }

def keys (dict : OrderedDict κ ν) : List κ :=
  dict.entries.map Prod.fst

theorem mem_keys_of_mem {dict : OrderedDict κ ν} {key : κ} {value : ν}
    (member : (key, value) ∈ dict.entries) : key ∈ dict.keys :=
  List.mem_map.mpr ⟨(key, value), member, rfl⟩

theorem mem_keys_iff {dict : OrderedDict κ ν} {key : κ} :
    key ∈ dict.keys ↔ ∃ value, (key, value) ∈ dict.entries := by
  constructor
  · intro member
    rcases List.mem_map.mp member with ⟨⟨found, value⟩, present, rfl⟩
    exact ⟨value, present⟩
  · rintro ⟨value, present⟩
    exact mem_keys_of_mem present

theorem value_unique {dict : OrderedDict κ ν} {key : κ} {left right : ν}
    (leftMember : (key, left) ∈ dict.entries) (rightMember : (key, right) ∈ dict.entries) :
    left = right := by
  have same := List.inj_on_of_nodup_map dict.distinct leftMember rightMember rfl
  exact congrArg Prod.snd same

variable [DecidableEq κ]

def get? (dict : OrderedDict κ ν) (key : κ) : Option ν :=
  (dict.entries.find? (fun entry => entry.1 = key)).map Prod.snd

def erase (dict : OrderedDict κ ν) (key : κ) : OrderedDict κ ν :=
  { entries := dict.entries.filter (fun entry => entry.1 ≠ key)
    distinct := dict.distinct.sublist (List.filter_sublist.map Prod.fst) }

def assigned (key : κ) (value : ν) (entries : List (κ × ν)) : List (κ × ν) :=
  if key ∈ entries.map Prod.fst then
    entries.map (fun entry => if entry.1 = key then (key, value) else entry)
  else entries ++ [(key, value)]

private theorem assigned_keys (key : κ) (value : ν) (entries : List (κ × ν)) :
    (assigned key value entries).map Prod.fst =
      if key ∈ entries.map Prod.fst then entries.map Prod.fst
      else entries.map Prod.fst ++ [key] := by
  unfold assigned
  split_ifs with present
  · rw [List.map_map]
    apply List.map_congr_left
    intro entry _member
    by_cases same : entry.1 = key
    · simp [same]
    · simp [same]
  · simp

omit [DecidableEq κ] in
/-- Every value renewed from its key and the value itself. -/
def mapValues (change : κ → ν → ν) (dict : OrderedDict κ ν) : OrderedDict κ ν :=
  { entries := dict.entries.map (fun entry => (entry.1, change entry.1 entry.2))
    distinct := by
      rw [List.map_map]
      exact dict.distinct }

def insert (dict : OrderedDict κ ν) (key : κ) (value : ν) : OrderedDict κ ν :=
  { entries := assigned key value dict.entries
    distinct := by
      rw [assigned_keys]
      split_ifs with present
      · exact dict.distinct
      · exact List.Nodup.append dict.distinct (List.nodup_singleton key)
          (List.disjoint_singleton.mpr present) }

theorem keys_insert (dict : OrderedDict κ ν) (key : κ) (value : ν) :
    (dict.insert key value).keys =
      if key ∈ dict.keys then dict.keys else dict.keys ++ [key] :=
  assigned_keys key value dict.entries

/-! ### Lookup -/

theorem get?_eq_some_iff {dict : OrderedDict κ ν} {key : κ} {value : ν} :
    dict.get? key = some value ↔ (key, value) ∈ dict.entries := by
  unfold get?
  constructor
  · intro found
    rcases Option.map_eq_some_iff.mp found with ⟨⟨at_, read⟩, search, rfl⟩
    have same : at_ = key := by simpa using List.find?_some search
    subst same
    exact List.mem_of_find?_eq_some search
  · intro member
    cases search : dict.entries.find? (fun entry => decide (entry.1 = key)) with
    | none =>
        have absent := List.find?_eq_none.mp search (key, value) member
        simp at absent
    | some entry =>
        rcases entry with ⟨at_, read⟩
        have same : at_ = key := by simpa using List.find?_some search
        subst same
        rw [value_unique (List.mem_of_find?_eq_some search) member]
        rfl

theorem get?_eq_none_iff {dict : OrderedDict κ ν} {key : κ} :
    dict.get? key = none ↔ key ∉ dict.keys := by
  constructor
  · intro missing member
    rcases mem_keys_iff.mp member with ⟨value, present⟩
    rw [get?_eq_some_iff.mpr present] at missing
    contradiction
  · intro absent
    cases found : dict.get? key with
    | none => rfl
    | some value => exact absurd (mem_keys_of_mem (get?_eq_some_iff.mp found)) absent

theorem mem_erase_iff {dict : OrderedDict κ ν} {erased key : κ} {value : ν} :
    (key, value) ∈ (dict.erase erased).entries ↔
      key ≠ erased ∧ (key, value) ∈ dict.entries := by
  simp [erase, and_comm]

theorem mem_keys_erase_iff {dict : OrderedDict κ ν} {erased key : κ} :
    key ∈ (dict.erase erased).keys ↔ key ≠ erased ∧ key ∈ dict.keys := by
  simp only [mem_keys_iff, mem_erase_iff]
  constructor
  · rintro ⟨value, different, present⟩
    exact ⟨different, value, present⟩
  · rintro ⟨different, value, present⟩
    exact ⟨value, different, present⟩

theorem mem_insert_iff {dict : OrderedDict κ ν} {assignedKey key : κ} {new value : ν} :
    (key, value) ∈ (dict.insert assignedKey new).entries ↔
      (key = assignedKey ∧ value = new) ∨
        (key ≠ assignedKey ∧ (key, value) ∈ dict.entries) := by
  unfold insert assigned
  split_ifs with present
  · simp only [List.mem_map, Prod.exists]
    constructor
    · rintro ⟨at_, read, member, image⟩
      split_ifs at image with same
      · exact Or.inl ⟨(congrArg Prod.fst image).symm, (congrArg Prod.snd image).symm⟩
      · have atEq : at_ = key := congrArg Prod.fst image
        have readEq : read = value := congrArg Prod.snd image
        subst atEq
        subst readEq
        exact Or.inr ⟨same, member⟩
    · rintro (⟨rfl, rfl⟩ | ⟨different, member⟩)
      · rcases List.mem_map.mp present with ⟨⟨at_, read⟩, member, atEq⟩
        exact ⟨at_, read, member, if_pos atEq⟩
      · exact ⟨key, value, member, if_neg different⟩
  · simp only [List.mem_append, List.mem_singleton, Prod.mk.injEq]
    constructor
    · rintro (member | added)
      · refine Or.inr ⟨?_, member⟩
        rintro rfl
        exact present (List.mem_map.mpr ⟨(key, value), member, rfl⟩)
      · exact Or.inl added
    · rintro (added | ⟨_different, member⟩)
      · exact Or.inr added
      · exact Or.inl member

theorem mem_keys_insert_iff {dict : OrderedDict κ ν} {assignedKey key : κ} {new : ν} :
    key ∈ (dict.insert assignedKey new).keys ↔ key = assignedKey ∨ key ∈ dict.keys := by
  simp only [mem_keys_iff, mem_insert_iff]
  constructor
  · rintro ⟨value, ⟨same, _⟩ | ⟨_, present⟩⟩
    · exact Or.inl same
    · exact Or.inr ⟨value, present⟩
  · rintro (same | ⟨value, present⟩)
    · exact ⟨new, Or.inl ⟨same, rfl⟩⟩
    · by_cases same : key = assignedKey
      · exact ⟨new, Or.inl ⟨same, rfl⟩⟩
      · exact ⟨value, Or.inr ⟨same, present⟩⟩

theorem get?_insert (dict : OrderedDict κ ν) (assignedKey key : κ) (new : ν) :
    (dict.insert assignedKey new).get? key =
      if key = assignedKey then some new else dict.get? key := by
  apply Option.ext
  intro value
  split_ifs with same
  · rw [get?_eq_some_iff, mem_insert_iff]
    simp [same, eq_comm]
  · rw [get?_eq_some_iff, mem_insert_iff, get?_eq_some_iff]
    simp [same]

theorem getD_get?_insert (dict : OrderedDict κ ν) (assignedKey key : κ) (new default : ν) :
    ((dict.insert assignedKey new).get? key).getD default =
      if key = assignedKey then new else (dict.get? key).getD default := by
  rw [get?_insert]
  split_ifs <;> rfl

theorem get?_erase (dict : OrderedDict κ ν) (erased key : κ) :
    (dict.erase erased).get? key = if key = erased then none else dict.get? key := by
  apply Option.ext
  intro value
  split_ifs with same
  · rw [get?_eq_some_iff, mem_erase_iff]
    simp [same]
  · rw [get?_eq_some_iff, mem_erase_iff, get?_eq_some_iff]
    simp [same]

theorem get?_mapValues (change : κ → ν → ν) (dict : OrderedDict κ ν) (key : κ) :
    (dict.mapValues change).get? key = (dict.get? key).map (change key) := by
  apply Option.ext
  intro value
  rw [get?_eq_some_iff, Option.map_eq_some_iff]
  constructor
  · intro member
    obtain ⟨⟨at_, old⟩, present, same⟩ := List.mem_map.mp member
    obtain ⟨rfl, rfl⟩ := Prod.mk.inj same
    exact ⟨old, get?_eq_some_iff.mpr present, rfl⟩
  · rintro ⟨old, found, rfl⟩
    exact List.mem_map.mpr ⟨(key, old), get?_eq_some_iff.mp found, rfl⟩

theorem filter_key_eq (dict : OrderedDict κ ν) (key : κ) :
    dict.entries.filter (fun entry => entry.1 = key) =
      (dict.get? key).toList.map (fun value => (key, value)) := by
  have single : ∀ entries : List (κ × ν), (entries.map Prod.fst).Nodup →
      entries.filter (fun entry => entry.1 = key) =
        (((entries.find? (fun entry => entry.1 = key)).map Prod.snd).toList.map
          (fun value => (key, value))) := by
    intro entries distinct
    induction entries with
    | nil => rfl
    | cons head rest ih =>
        rw [List.map_cons, List.nodup_cons] at distinct
        by_cases same : head.1 = key
        · have noneLater : rest.filter (fun entry => entry.1 = key) = [] := by
            apply List.filter_eq_nil_iff.mpr
            intro entry member later
            exact distinct.1 (List.mem_map.mpr
              ⟨entry, member, (of_decide_eq_true later).trans same.symm⟩)
          simp [same, noneLater]
          rw [← same]
        · have later := ih distinct.2
          simpa [List.filter_cons, List.find?_cons, same] using later
  exact single dict.entries dict.distinct

/-! ### Totals -/

variable [AddCommGroup M]

omit [DecidableEq κ] in
def total (dict : OrderedDict κ ν) (weight : κ → ν → M) : M :=
  (dict.entries.map (fun entry => weight entry.1 entry.2)).sum

omit [DecidableEq κ] in
theorem total_empty (weight : κ → ν → M) : (empty : OrderedDict κ ν).total weight = 0 :=
  rfl

theorem total_congr {dict : OrderedDict κ ν} {left right : κ → ν → M}
    (same : ∀ key value, dict.get? key = some value → left key value = right key value) :
    dict.total left = dict.total right := by
  unfold total
  congr 1
  apply List.map_congr_left
  intro entry member
  exact same entry.1 entry.2 (get?_eq_some_iff.mpr member)

theorem total_nonneg [PartialOrder M] [IsOrderedAddMonoid M] {dict : OrderedDict κ ν}
    {weight : κ → ν → M}
    (nonneg : ∀ key value, dict.get? key = some value → 0 ≤ weight key value) :
    0 ≤ dict.total weight := by
  apply List.sum_nonneg
  intro share member
  obtain ⟨entry, present, rfl⟩ := List.mem_map.mp member
  exact nonneg entry.1 entry.2 (get?_eq_some_iff.mpr present)

omit [DecidableEq κ] in
theorem total_add (dict : OrderedDict κ ν) (left right : κ → ν → M) :
    dict.total (fun key value => left key value + right key value) =
      dict.total left + dict.total right :=
  List.sum_map_add

omit [DecidableEq κ] in
theorem total_mapValues (change : κ → ν → ν) (dict : OrderedDict κ ν) (weight : κ → ν → M) :
    (dict.mapValues change).total weight =
      dict.total (fun key value => weight key (change key value)) := by
  unfold total mapValues
  rw [List.map_map]
  rfl

private theorem sum_filter_ne (weight : κ × ν → M) (key : κ) (value : ν)
    (entries : List (κ × ν)) (distinct : (entries.map Prod.fst).Nodup)
    (member : (key, value) ∈ entries) :
    ((entries.filter (fun entry => entry.1 ≠ key)).map weight).sum + weight (key, value) =
      (entries.map weight).sum := by
  induction entries with
  | nil => contradiction
  | cons head rest ih =>
      rcases head with ⟨at_, read⟩
      simp only [List.map_cons, List.nodup_cons] at distinct
      rcases List.mem_cons.mp member with atHead | later
      · obtain ⟨rfl, rfl⟩ := Prod.mk.inj atHead
        have untouched : rest.filter (fun entry => decide (entry.1 ≠ key)) = rest := by
          apply List.filter_eq_self.mpr
          intro entry entryMember
          have different : entry.1 ≠ key := by
            intro same
            exact distinct.1 (List.mem_map.mpr ⟨entry, entryMember, same⟩)
          simp [different]
        rw [List.filter_cons_of_neg (by simp), untouched, List.map_cons, List.sum_cons, add_comm]
      · have different : at_ ≠ key := by
          intro same
          exact distinct.1 (List.mem_map.mpr ⟨(key, value), later, same.symm⟩)
        have tail := ih distinct.2 later
        simp only [ne_eq, decide_not, List.map_cons, List.sum_cons] at tail ⊢
        rw [← tail]
        simp [different, add_assoc]

theorem total_erase {dict : OrderedDict κ ν} {key : κ} {value : ν}
    (weight : κ → ν → M) (found : dict.get? key = some value) :
    (dict.erase key).total weight + weight key value = dict.total weight :=
  sum_filter_ne (fun entry => weight entry.1 entry.2) key value dict.entries
    dict.distinct (get?_eq_some_iff.mp found)

theorem total_insert_of_get?_none {dict : OrderedDict κ ν} {key : κ}
    (weight : κ → ν → M) (value : ν) (missing : dict.get? key = none) :
    (dict.insert key value).total weight = dict.total weight + weight key value := by
  have absent : key ∉ dict.entries.map Prod.fst := get?_eq_none_iff.mp missing
  simp [total, insert, assigned, absent]

private theorem sum_replace (weight : κ × ν → M) (key : κ) (old new : ν)
    (entries : List (κ × ν)) (distinct : (entries.map Prod.fst).Nodup)
    (member : (key, old) ∈ entries) :
    ((entries.map (fun entry => if entry.1 = key then (key, new) else entry)).map weight).sum +
        weight (key, old) =
      (entries.map weight).sum + weight (key, new) := by
  induction entries with
  | nil => contradiction
  | cons head rest ih =>
      rcases head with ⟨at_, read⟩
      simp only [List.map_cons, List.nodup_cons] at distinct
      rcases List.mem_cons.mp member with atHead | later
      · obtain ⟨rfl, rfl⟩ := Prod.mk.inj atHead
        have untouched :
            rest.map (fun entry => if entry.1 = key then (key, new) else entry) = rest := by
          conv_rhs => rw [← List.map_id rest]
          apply List.map_congr_left
          intro entry entryMember
          have different : entry.1 ≠ key := by
            intro same
            exact distinct.1 (List.mem_map.mpr ⟨entry, entryMember, same⟩)
          simp [different]
        simp only [List.map_cons, List.sum_cons, if_true, untouched]
        abel
      · have different : at_ ≠ key := by
          intro same
          exact distinct.1 (List.mem_map.mpr ⟨(key, old), later, same.symm⟩)
        have tail := ih distinct.2 later
        simp only [List.map_cons, List.sum_cons, if_neg different, add_assoc]
        rw [tail]

theorem total_insert_of_get?_some {dict : OrderedDict κ ν} {key : κ} {old : ν}
    (weight : κ → ν → M) (new : ν) (found : dict.get? key = some old) :
    (dict.insert key new).total weight + weight key old =
      dict.total weight + weight key new := by
  have member := get?_eq_some_iff.mp found
  have present : key ∈ dict.entries.map Prod.fst := mem_keys_of_mem member
  have exchanged := sum_replace (fun entry => weight entry.1 entry.2) key old new
    dict.entries dict.distinct member
  simpa [total, insert, assigned, present] using exchanged

theorem total_insert_getD {dict : OrderedDict κ ν} {key : κ} {default : ν}
    (weight : κ → ν → M) (new : ν) (weightless : weight key default = 0) :
    (dict.insert key new).total weight + weight key ((dict.get? key).getD default) =
      dict.total weight + weight key new := by
  cases found : dict.get? key with
  | none =>
      rw [total_insert_of_get?_none weight new found, Option.getD_none, weightless, add_zero]
  | some old => exact total_insert_of_get?_some weight new found

def weightAt (dict : OrderedDict κ ν) (weight : κ → ν → M) (key : κ) : M :=
  (dict.get? key).elim 0 (weight key)

private theorem weightAt_add_sum_filter (dict : OrderedDict κ ν) (weight : κ → ν → M)
    (key : κ) (listed : List κ) (fresh : key ∉ listed) :
    dict.weightAt weight key +
        ((dict.entries.filter (fun entry => entry.1 ∉ key :: listed)).map
          (fun entry => weight entry.1 entry.2)).sum =
      ((dict.entries.filter (fun entry => entry.1 ∉ listed)).map
        (fun entry => weight entry.1 entry.2)).sum := by
  have nested : dict.entries.filter (fun entry => entry.1 ∉ key :: listed) =
      (dict.entries.filter (fun entry => entry.1 ∉ listed)).filter
        (fun entry => entry.1 ≠ key) := by
    rw [List.filter_filter]
    apply List.filter_congr
    intro entry _member
    simp
  rw [nested]
  cases found : dict.get? key with
  | none =>
      have untouched : (dict.entries.filter (fun entry => entry.1 ∉ listed)).filter
          (fun entry => entry.1 ≠ key) =
            dict.entries.filter (fun entry => entry.1 ∉ listed) := by
        apply List.filter_eq_self.mpr
        intro entry member
        have different : entry.1 ≠ key := by
          intro same
          exact get?_eq_none_iff.mp found
            (List.mem_map.mpr ⟨entry, (List.mem_filter.mp member).1, same⟩)
        simp [different]
      rw [untouched, weightAt, found, Option.elim_none, zero_add]
  | some value =>
      have remaining : ((dict.entries.filter (fun entry => entry.1 ∉ listed)).map
          Prod.fst).Nodup :=
        dict.distinct.sublist (List.filter_sublist.map Prod.fst)
      have member : (key, value) ∈
          dict.entries.filter (fun entry => entry.1 ∉ listed) :=
        List.mem_filter.mpr ⟨get?_eq_some_iff.mp found, by simpa using fresh⟩
      have removed := sum_filter_ne (fun entry => weight entry.1 entry.2) key value
        _ remaining member
      rw [weightAt, found, Option.elim_some, add_comm]
      exact removed

/-- A total is what the keys of a duplicate-free list carry and what the bindings
outside that list carry. -/
theorem sum_weightAt_add_sum_filter (dict : OrderedDict κ ν) (weight : κ → ν → M)
    (listed : List κ) (distinct : listed.Nodup) :
    (listed.map (dict.weightAt weight)).sum +
        ((dict.entries.filter (fun entry => entry.1 ∉ listed)).map
          (fun entry => weight entry.1 entry.2)).sum =
      dict.total weight := by
  induction listed with
  | nil => simp [total]
  | cons key rest ih =>
      have split := weightAt_add_sum_filter dict weight key rest (List.nodup_cons.mp distinct).1
      have tail := ih (List.nodup_cons.mp distinct).2
      rw [List.map_cons, List.sum_cons, ← tail, ← split]
      abel

theorem total_le_sum_weightAt_add_sum_filter [PartialOrder M] [IsOrderedAddMonoid M]
    (dict : OrderedDict κ ν) (weight : κ → ν → M) (listed : List κ)
    (nonneg : ∀ entry ∈ dict.entries, 0 ≤ weight entry.1 entry.2) :
    dict.total weight ≤
      (listed.map (dict.weightAt weight)).sum +
        ((dict.entries.filter (fun entry => entry.1 ∉ listed)).map
          (fun entry => weight entry.1 entry.2)).sum := by
  have weightNonneg : ∀ key, 0 ≤ dict.weightAt weight key := by
    intro key
    cases found : dict.get? key with
    | none => rw [weightAt, found, Option.elim_none]
    | some value =>
        rw [weightAt, found, Option.elim_some]
        exact nonneg (key, value) (get?_eq_some_iff.mp found)
  have account := dict.sum_weightAt_add_sum_filter weight listed.dedup listed.nodup_dedup
  have sameKeys : dict.entries.filter (fun entry => entry.1 ∉ listed.dedup) =
      dict.entries.filter (fun entry => entry.1 ∉ listed) := by
    simp only [List.mem_dedup]
  rw [sameKeys] at account
  rw [← account]
  apply add_le_add_left
  apply List.Sublist.sum_le_sum (listed.dedup_sublist.map _)
  intro value member
  obtain ⟨key, _, rfl⟩ := List.mem_map.mp member
  exact weightNonneg key

end OrderedDict
