/-
The first item of the greatest score.

A loop that replaces its choice only by a strictly better item keeps the first of the best.
-/

import Mathlib.Data.List.Induction
import Mathlib.Order.Lattice

namespace FirstBest

variable {α β : Type} [LinearOrder β]

section Loop

variable (eligible : α → Bool) (score : α → β)

def improve (best : Option α) (item : α) : Option α :=
  if eligible item = true ∧ ∀ found ∈ best, score found < score item then some item else best

def firstBest (items : List α) : Option α :=
  items.foldl (improve eligible score) none

/-- No eligible item before the choice is as good, and none after it is better. -/
structure Chosen (items : List α) (chosen : α) : Prop where
  admitted : eligible chosen = true
  split : ∃ before after, items = before ++ chosen :: after ∧
    (∀ item ∈ before, eligible item = true → score item < score chosen) ∧
    ∀ item ∈ after, eligible item = true → score item ≤ score chosen

end Loop

variable {eligible : α → Bool} {score : α → β} {items : List α} {chosen item : α}

theorem firstBest_concat :
    firstBest eligible score (items ++ [item]) =
      improve eligible score (firstBest eligible score items) item := by
  unfold firstBest
  rw [List.foldl_append]
  rfl

theorem Chosen.le (best : Chosen eligible score items chosen) (member : item ∈ items)
    (admitted : eligible item = true) : score item ≤ score chosen := by
  obtain ⟨before, after, rfl, better, good⟩ := best.split
  rcases List.mem_append.mp member with early | rest
  · exact le_of_lt (better item early admitted)
  · rcases List.mem_cons.mp rest with rfl | late
    · exact le_refl _
    · exact good item late admitted

variable (eligible score) in
theorem firstBest_spec (items : List α) :
    (firstBest eligible score items = none ∧ ∀ item ∈ items, eligible item = false) ∨
      ∃ chosen, firstBest eligible score items = some chosen ∧
        Chosen eligible score items chosen := by
  induction items using List.reverseRecOn with
  | nil => exact .inl ⟨rfl, fun _item member => absurd member List.not_mem_nil⟩
  | append_singleton items item ih =>
      rw [firstBest_concat]
      unfold improve
      rcases ih with ⟨nothing, ineligible⟩ | ⟨chosen, found, best⟩
      · rw [nothing]
        by_cases admitted : eligible item = true
        · right
          refine ⟨item, if_pos ⟨admitted, nofun⟩, admitted, items, [], rfl, ?_, nofun⟩
          intro other member allowed
          rw [ineligible other member] at allowed
          cases allowed
        · left
          refine ⟨if_neg (fun accepted => admitted accepted.1), ?_⟩
          intro other member
          rcases List.mem_append.mp member with old | new
          · exact ineligible other old
          · rw [List.mem_singleton.mp new]
            exact Bool.eq_false_of_not_eq_true admitted
      · right
        rw [found]
        by_cases better : eligible item = true ∧ score chosen < score item
        · have beaten : ∀ other ∈ some chosen, score other < score item := by
            intro other same
            cases same
            exact better.2
          refine ⟨item, if_pos ⟨better.1, beaten⟩, better.1, items, [], rfl, ?_, nofun⟩
          intro other member allowed
          exact lt_of_le_of_lt (best.le member allowed) better.2
        · refine ⟨chosen, if_neg ?_, best.admitted, ?_⟩
          · intro accepted
            exact better ⟨accepted.1, accepted.2 chosen rfl⟩
          · obtain ⟨before, after, rfl, earlier, later⟩ := best.split
            refine ⟨before, after ++ [item], by simp, earlier, ?_⟩
            intro other member allowed
            rcases List.mem_append.mp member with old | new
            · exact later other old allowed
            · cases List.mem_singleton.mp new
              exact not_lt.mp (fun higher => better ⟨allowed, higher⟩)

theorem firstBest_eq_none_iff :
    firstBest eligible score items = none ↔ ∀ item ∈ items, eligible item = false := by
  rcases firstBest_spec eligible score items with
    ⟨nothing, ineligible⟩ | ⟨chosen, found, best⟩
  · exact iff_of_true nothing ineligible
  · obtain ⟨before, after, rfl, _⟩ := best.split
    rw [found]
    refine iff_of_false (fun none_ => nomatch none_) ?_
    intro ineligible
    have refused := ineligible chosen (List.mem_append_right before List.mem_cons_self)
    rw [best.admitted] at refused
    cases refused

theorem chosen_of_firstBest (found : firstBest eligible score items = some chosen) :
    Chosen eligible score items chosen := by
  rcases firstBest_spec eligible score items with
    ⟨nothing, _⟩ | ⟨first, same, best⟩
  · rw [nothing] at found
    cases found
  · rw [same] at found
    cases found
    exact best

end FirstBest
