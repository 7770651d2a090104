/-
Running peaks of a sequence.

One pass keeps the highest value seen so far and the worst loss measured from it.  When a
loss grows with the value it is measured from, the pass finds the worst loss between any
value of the sequence and a later one.
-/

import Mathlib.Data.List.Induction
import Mathlib.Order.Bounds.Basic
import Mathlib.Order.MinMax

namespace RunningPeak

variable {α β : Type} [LinearOrder α] [LinearOrder β]

/-- The peak so far and the worst loss so far. -/
def step (loss : α → α → β) (state : α × β) (value : α) : α × β :=
  let peak := if state.1 < value then value else state.1
  let fall := loss peak value
  (peak, if state.2 < fall then fall else state.2)

def run (loss : α → α → β) (floor : β) (first : α) (rest : List α) : α × β :=
  (first :: rest).foldl (step loss) (first, floor)

/-- A loss from a value to the same or a later one. -/
def LossIn (loss : α → α → β) (values : List α) (fall : β) : Prop :=
  ∃ (i j : ℕ) (earlier later : α), i ≤ j ∧ values[i]? = some earlier ∧ values[j]? = some later ∧
    fall = loss earlier later

variable {loss : α → α → β} {values : List α} {floor fall : β} {first value : α}

omit [LinearOrder α] [LinearOrder β] in
theorem lossIn_concat : LossIn loss (values ++ [value]) fall ↔
    LossIn loss values fall ∨ ∃ earlier ∈ values ++ [value], fall = loss earlier value := by
  constructor
  · rintro ⟨i, j, earlier, later, ordered, atI, atJ, rfl⟩
    by_cases inside : j < values.length
    · rw [List.getElem?_append_left inside] at atJ
      rw [List.getElem?_append_left (lt_of_le_of_lt ordered inside)] at atI
      exact Or.inl ⟨i, j, earlier, later, ordered, atI, atJ, rfl⟩
    · rw [List.getElem?_append_right (not_lt.mp inside)] at atJ
      have last : later = value := List.mem_singleton.mp (List.mem_of_getElem? atJ)
      exact Or.inr ⟨earlier, List.mem_of_getElem? atI, by rw [last]⟩
  · rintro (⟨i, j, earlier, later, ordered, atI, atJ, rfl⟩ | ⟨earlier, member, rfl⟩)
    · have insideI : i < values.length := (List.getElem?_eq_some_iff.mp atI).1
      have insideJ : j < values.length := (List.getElem?_eq_some_iff.mp atJ).1
      refine ⟨i, j, earlier, later, ordered, ?_, ?_, rfl⟩
      · rw [List.getElem?_append_left insideI, atI]
      · rw [List.getElem?_append_left insideJ, atJ]
    · obtain ⟨i, atI⟩ := List.getElem?_of_mem member
      have insideI : i < (values ++ [value]).length := (List.getElem?_eq_some_iff.mp atI).1
      rw [List.length_append, List.length_singleton] at insideI
      exact ⟨i, values.length, earlier, value, Nat.le_of_lt_succ insideI, atI,
        List.getElem?_concat_length, rfl⟩

omit [LinearOrder α] [LinearOrder β] in
theorem lossIn_singleton : LossIn loss [value] fall ↔ fall = loss value value := by
  rw [← List.nil_append [value], lossIn_concat, List.nil_append]
  constructor
  · rintro (⟨_, _, _, _, _, atI, _, _⟩ | ⟨earlier, member, rfl⟩)
    · cases atI
    · rw [List.mem_singleton.mp member]
  · rintro rfl
    exact Or.inr ⟨value, List.mem_cons_self, rfl⟩

theorem step_peak {state : α × β} (peak : IsGreatest {x | x ∈ values} state.1) :
    IsGreatest {x | x ∈ values ++ [value]} (step loss state value).1 := by
  have higher : (step loss state value).1 = max state.1 value := (max_def_lt _ _).symm
  rw [higher]
  constructor
  · rcases max_choice state.1 value with same | same
    · rw [same]
      exact List.mem_append_left _ peak.1
    · rw [same]
      exact List.mem_append_right _ List.mem_cons_self
  · intro other member
    rcases List.mem_append.mp member with before | last
    · exact le_trans (peak.2 before) (le_max_left _ _)
    · rw [List.mem_singleton.mp last]
      exact le_max_right _ _

theorem step_worst {state : α × β}
    (mono : ∀ lower ∈ values ++ [value], ∀ upper ∈ values ++ [value], lower ≤ upper →
      loss lower value ≤ loss upper value)
    (peak : IsGreatest {x | x ∈ values} state.1)
    (worst : IsGreatest {fall | fall = floor ∨ LossIn loss values fall} state.2) :
    IsGreatest {fall | fall = floor ∨ LossIn loss (values ++ [value]) fall}
      (step loss state value).2 := by
  have top : IsGreatest {x | x ∈ values ++ [value]} (step loss state value).1 := step_peak peak
  have worse : (step loss state value).2 =
      max state.2 (loss (step loss state value).1 value) := (max_def_lt _ _).symm
  rw [worse]
  constructor
  · rcases max_choice state.2 (loss (step loss state value).1 value) with same | same
    · rw [same]
      rcases worst.1 with atFloor | before
      · exact Or.inl atFloor
      · exact Or.inr (lossIn_concat.mpr (Or.inl before))
    · rw [same]
      exact Or.inr (lossIn_concat.mpr (Or.inr ⟨_, top.1, rfl⟩))
  · rintro fall (atFloor | found)
    · exact le_trans (worst.2 (Or.inl atFloor)) (le_max_left _ _)
    · rcases lossIn_concat.mp found with before | ⟨earlier, member, rfl⟩
      · exact le_trans (worst.2 (Or.inr before)) (le_max_left _ _)
      · exact le_trans (mono earlier member _ top.1 (top.2 member)) (le_max_right _ _)

theorem run_nil_isGreatest (loss : α → α → β) (floor : β) (first : α) :
    IsGreatest {x | x ∈ [first]} (run loss floor first []).1 ∧
      IsGreatest {fall | fall = floor ∨ LossIn loss [first] fall} (run loss floor first []).2 := by
  have stays : run loss floor first [] = (first, max floor (loss first first)) := by
    change step loss (first, floor) first = _
    rw [step, if_neg (lt_irrefl first), max_def_lt]
  rw [stays]
  refine ⟨⟨List.mem_cons_self, ?_⟩, ?_, ?_⟩
  · intro other member
    exact (List.mem_singleton.mp member).le
  · rcases max_choice floor (loss first first) with same | same
    · exact Or.inl same
    · exact Or.inr (lossIn_singleton.mpr same)
  · rintro fall (rfl | found)
    · exact le_max_left _ _
    · rw [lossIn_singleton.mp found]
      exact le_max_right _ _

theorem run_isGreatest (loss : α → α → β) (floor : β) (rest : List α)
    (mono : ∀ lower ∈ first :: rest, ∀ upper ∈ first :: rest, ∀ value ∈ first :: rest,
      lower ≤ upper → loss lower value ≤ loss upper value) :
    IsGreatest {x | x ∈ first :: rest} (run loss floor first rest).1 ∧
      IsGreatest {fall | fall = floor ∨ LossIn loss (first :: rest) fall}
        (run loss floor first rest).2 := by
  induction rest using List.reverseRecOn with
  | nil => exact run_nil_isGreatest loss floor first
  | append_singleton rest value ih =>
      have widen : ∀ x ∈ first :: rest, x ∈ first :: (rest ++ [value]) := by
        intro x member
        rw [← List.cons_append]
        exact List.mem_append_left _ member
      obtain ⟨peak, worst⟩ := ih (fun lower atLower upper atUpper value atValue =>
        mono lower (widen lower atLower) upper (widen upper atUpper) value (widen value atValue))
      have advance : run loss floor first (rest ++ [value]) =
          step loss (run loss floor first rest) value := by
        rw [run, ← List.cons_append, List.foldl_append]
        rfl
      rw [advance, ← List.cons_append]
      refine ⟨step_peak peak, step_worst ?_ peak worst⟩
      intro lower atLower upper atUpper
      exact mono lower atLower upper atUpper value
        (List.mem_append_right (first :: rest) List.mem_cons_self)

end RunningPeak
