/-
Items grouped by a key.

One pass appends each item to the list of its key.  Every group is then what a filter by its key
would have kept, in the order of the items, so any total over the items is the sum of the totals
of the groups.
-/

import Mathlib.Data.List.Induction
import Mathlib.Data.List.MinMax
import Mathlib.Data.List.Sort
import TradingEngine.General.FifoLots
import TradingEngine.General.OrderedDict

namespace Grouping

variable {α β κ ν M : Type}

section Groups

variable [DecidableEq κ]

def addTo (key : α → κ) (groups : OrderedDict κ (List α)) (item : α) :
    OrderedDict κ (List α) :=
  groups.insert (key item) ((groups.get? (key item)).getD [] ++ [item])

def groupBy (key : α → κ) (items : List α) : OrderedDict κ (List α) :=
  items.foldl (addTo key) OrderedDict.empty

theorem groupBy_concat (key : α → κ) (items : List α) (item : α) :
    groupBy key (items ++ [item]) = addTo key (groupBy key items) item := by
  unfold groupBy
  rw [List.foldl_append]
  rfl

theorem getD_groupBy (key : α → κ) (items : List α) (k : κ) :
    ((groupBy key items).get? k).getD [] = items.filter (fun item => key item = k) := by
  induction items using List.reverseRecOn with
  | nil => rfl
  | append_singleton items item ih =>
      rw [groupBy_concat, addTo, OrderedDict.getD_get?_insert, List.filter_append]
      by_cases own : key item = k
      · subst own
        rw [if_pos rfl, ih]
        simp
      · rw [if_neg (Ne.symm own), ih]
        simp [own]

theorem mem_keys_groupBy (key : α → κ) (items : List α) (k : κ) :
    k ∈ (groupBy key items).keys ↔ ∃ item ∈ items, key item = k := by
  induction items using List.reverseRecOn with
  | nil => simp [groupBy, OrderedDict.keys, OrderedDict.empty]
  | append_singleton items item ih =>
      rw [groupBy_concat, addTo, OrderedDict.mem_keys_insert_iff, ih]
      simp [or_comm, eq_comm, or_and_right, exists_or]

theorem get?_groupBy_eq_some_iff (key : α → κ) (items : List α) (k : κ) (group : List α) :
    (groupBy key items).get? k = some group ↔
      (∃ item ∈ items, key item = k) ∧ group = items.filter (fun item => key item = k) := by
  rw [← mem_keys_groupBy, ← getD_groupBy]
  constructor
  · intro found
    rw [found]
    exact ⟨OrderedDict.mem_keys_of_mem (OrderedDict.get?_eq_some_iff.mp found), rfl⟩
  · intro ⟨listed, same⟩
    obtain ⟨given, present⟩ := OrderedDict.mem_keys_iff.mp listed
    have found := OrderedDict.get?_eq_some_iff.mpr present
    rw [found] at same ⊢
    rw [same]
    rfl

omit [DecidableEq κ] in
theorem length_filter_add_of_disjoint {p q : α → Prop} [DecidablePred p] [DecidablePred q]
    (apart : ∀ item, p item → ¬ q item) (items : List α) :
    (items.filter (fun item => p item)).length + (items.filter (fun item => q item)).length =
      (items.filter (fun item => p item ∨ q item)).length := by
  induction items with
  | nil => rfl
  | cons item rest ih =>
      simp only [Bool.decide_or] at ih ⊢
      by_cases first : p item
      · have never := apart item first
        simp [first, never]
        omega
      · by_cases second : q item
        · simp [first, second]
          omega
        · simp [first, second, ih]

/-! ### One value for each key -/

/-- The dictionary that a loop over the keys fills. -/
def tabulate (value : κ → ν) (keys : List κ) : OrderedDict κ ν :=
  keys.foldl (fun dict key => dict.insert key (value key)) OrderedDict.empty

theorem get?_tabulate (value : κ → ν) (keys : List κ) (k : κ) :
    (tabulate value keys).get? k = if k ∈ keys then some (value k) else none := by
  induction keys using List.reverseRecOn with
  | nil => rfl
  | append_singleton keys key ih =>
      unfold tabulate at ih ⊢
      rw [List.foldl_append, List.foldl_cons, List.foldl_nil, OrderedDict.get?_insert, ih]
      by_cases last : k = key
      · subst last
        simp
      · simp [last]

theorem get?_tabulate_eq_some_iff {value : κ → ν} {keys : List κ} {k : κ} {found : ν} :
    (tabulate value keys).get? k = some found ↔ k ∈ keys ∧ found = value k := by
  rw [get?_tabulate]
  by_cases listed : k ∈ keys
  · simp [listed, eq_comm]
  · simp [listed]

theorem sum_tabulate [AddCommMonoid M] (value : κ → ν) (keys : List κ) (amount : ν → M) :
    ((tabulate value keys).entries.map (fun entry => amount entry.2)).sum =
      ∑ key ∈ keys.toFinset, amount (value key) := by
  have listed : (tabulate value keys).keys.toFinset = keys.toFinset := by
    ext k
    rw [List.mem_toFinset, List.mem_toFinset, OrderedDict.mem_keys_iff]
    simp only [← OrderedDict.get?_eq_some_iff, get?_tabulate_eq_some_iff]
    simp
  have each : (tabulate value keys).entries.map (fun entry => amount entry.2) =
      (tabulate value keys).keys.map (fun key => amount (value key)) := by
    unfold OrderedDict.keys
    rw [List.map_map]
    refine List.map_congr_left ?_
    intro entry member
    have found := get?_tabulate_eq_some_iff.mp (OrderedDict.get?_eq_some_iff.mpr member)
    exact congrArg amount found.2
  rw [each, ← listed]
  exact (List.sum_toFinset _ (tabulate value keys).distinct).symm

/-! ### The key of an extreme value -/

variable {β : Type} [LinearOrder β]

/-- `max(dict, key=amount)`, the first key of the greatest amount. -/
def keyOfMax (amount : ν → β) (dict : OrderedDict κ ν) : Option κ :=
  (dict.entries.argmax (fun entry => amount entry.2)).map Prod.fst

def keyOfMin (amount : ν → β) (dict : OrderedDict κ ν) : Option κ :=
  (dict.entries.argmin (fun entry => amount entry.2)).map Prod.fst

theorem greatest_of_keyOfMax {amount : ν → β} {dict : OrderedDict κ ν} {key : κ}
    (found : keyOfMax amount dict = some key) :
    ∃ value, dict.get? key = some value ∧
      ∀ k other, dict.get? k = some other → amount other ≤ amount value := by
  obtain ⟨⟨at_, value⟩, chosen, rfl⟩ := Option.map_eq_some_iff.mp found
  refine ⟨value, OrderedDict.get?_eq_some_iff.mpr (List.argmax_mem chosen), ?_⟩
  intro k other present
  have bound := List.le_of_mem_argmax (OrderedDict.get?_eq_some_iff.mp present) chosen
  exact bound

theorem least_of_keyOfMin {amount : ν → β} {dict : OrderedDict κ ν} {key : κ}
    (found : keyOfMin amount dict = some key) :
    ∃ value, dict.get? key = some value ∧
      ∀ k other, dict.get? k = some other → amount value ≤ amount other := by
  obtain ⟨⟨at_, value⟩, chosen, rfl⟩ := Option.map_eq_some_iff.mp found
  refine ⟨value, OrderedDict.get?_eq_some_iff.mpr (List.argmin_mem chosen), ?_⟩
  intro k other present
  have bound := List.le_of_mem_argmin (OrderedDict.get?_eq_some_iff.mp present) chosen
  exact bound

end Groups

/-! ### In the order of the keys -/

variable [LinearOrder κ]

/-- The bindings in the order of their keys, as `sorted(dict.items())` gives them. -/
def sortedItems (dict : OrderedDict κ ν) : List (κ × ν) :=
  dict.entries.insertionSort (fun left right => left.1 ≤ right.1)

theorem mem_sortedItems_iff {dict : OrderedDict κ ν} {key : κ} {value : ν} :
    (key, value) ∈ sortedItems dict ↔ dict.get? key = some value := by
  rw [OrderedDict.get?_eq_some_iff]
  exact (List.perm_insertionSort _ _).mem_iff

theorem sortedItems_increasing (dict : OrderedDict κ ν) :
    ((sortedItems dict).map Prod.fst).Pairwise (· < ·) := by
  have total : Std.Total (fun left right : κ × ν => left.1 ≤ right.1) :=
    ⟨fun left right => le_total left.1 right.1⟩
  have transitive : IsTrans (κ × ν) (fun left right => left.1 ≤ right.1) :=
    ⟨fun _ _ _ => le_trans⟩
  have ordered : ((sortedItems dict).map Prod.fst).Pairwise (· ≤ ·) :=
    List.pairwise_map.mpr (List.pairwise_insertionSort _ _)
  have distinct : ((sortedItems dict).map Prod.fst).Nodup :=
    ((List.perm_insertionSort _ _).map Prod.fst).nodup_iff.mpr dict.distinct
  exact List.Pairwise.imp₂ (fun _ _ le different => lt_of_le_of_ne le different) ordered distinct

def summarize (key : α → κ) (measure : List α → β) (items : List α) : List (κ × β) :=
  (sortedItems (groupBy key items)).map (fun entry => (entry.1, measure entry.2))

variable {key : α → κ} {measure : List α → β} {items : List α}

theorem keys_summarize :
    (summarize key measure items).map Prod.fst =
      (sortedItems (groupBy key items)).map Prod.fst := by
  unfold summarize
  rw [List.map_map]
  rfl

theorem summarize_increasing : ((summarize key measure items).map Prod.fst).Pairwise (· < ·) := by
  rw [keys_summarize]
  exact sortedItems_increasing _

theorem mem_summarize_iff {k : κ} {measured : β} :
    (k, measured) ∈ summarize key measure items ↔
      (∃ item ∈ items, key item = k) ∧
        measured = measure (items.filter (fun item => key item = k)) := by
  unfold summarize
  rw [List.mem_map]
  constructor
  · intro ⟨⟨at_, group⟩, member, same⟩
    obtain ⟨rfl, rfl⟩ := Prod.mk.inj same
    obtain ⟨listed, rfl⟩ := (get?_groupBy_eq_some_iff key items at_ group).mp
      (mem_sortedItems_iff.mp member)
    exact ⟨listed, rfl⟩
  · intro ⟨listed, same⟩
    refine ⟨(k, items.filter (fun item => key item = k)), ?_, by rw [same]⟩
    exact mem_sortedItems_iff.mpr ((get?_groupBy_eq_some_iff key items k _).mpr ⟨listed, rfl⟩)

theorem sum_summarize [AddCommMonoid M] (amount : β → M) (weight : α → M)
    (additive : ∀ k, amount (measure (items.filter (fun item => key item = k))) =
      ((items.filter (fun item => key item = k)).map weight).sum) :
    ((summarize key measure items).map (fun entry => amount entry.2)).sum =
      (items.map weight).sum := by
  have measured : (summarize key measure items).map (fun entry => amount entry.2) =
      ((summarize key measure items).map Prod.fst).map (fun k =>
        ((items.filter (fun item => key item = k)).map weight).sum) := by
    rw [List.map_map]
    refine List.map_congr_left ?_
    intro entry member
    obtain ⟨_, same⟩ := mem_summarize_iff.mp member
    rw [same]
    exact additive entry.1
  have distinct : ((summarize key measure items).map Prod.fst).Nodup :=
    summarize_increasing.imp ne_of_lt
  rw [measured, ← List.sum_toFinset _ distinct]
  refine FifoLots.sum_by_key key weight _ ?_
  intro item member
  have listed : (key item, measure (items.filter (fun other => key other = key item))) ∈
      summarize key measure items :=
    mem_summarize_iff.mpr ⟨⟨item, member, rfl⟩, rfl⟩
  exact List.mem_toFinset.mpr (List.mem_map_of_mem listed)

end Grouping
