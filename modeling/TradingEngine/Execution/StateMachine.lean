/-
The order lifecycle.

`allowedTransitions` is the transition table; every status change passes through
`transition`, which checks it against the table.
-/

import Mathlib.Data.List.Chain
import TradingEngine.Domain.Models

namespace TradingEngine.Execution

open Domain

/-- `_TRANSITIONS`. -/
def allowedTransitions : OrderStatus → List OrderStatus
  | .created => [.riskApproved, .riskRejected]
  | .riskApproved => [.submitted]
  | .riskRejected => [.failed]
  | .submitted => [.opened, .filled, .rejected, .failed, .unknown]
  | .opened =>
      [.partiallyFilled, .filled, .cancelRequested, .cancelled, .rejected, .unknown]
  | .partiallyFilled => [.filled, .cancelRequested, .cancelled, .unknown]
  | .cancelRequested => [.cancelled, .filled, .unknown]
  | .unknown => [.reconciled, .failed]
  | .reconciled => [.opened, .filled, .cancelled, .rejected]
  | .filled => []
  | .failed => []
  | .cancelled => []
  | .rejected => []

def isTerminal (status : OrderStatus) : Bool :=
  (allowedTransitions status).isEmpty

/-- An edge of the transition table. -/
def Edge (current next : OrderStatus) : Prop :=
  next ∈ allowedTransitions current

instance (current next : OrderStatus) : Decidable (Edge current next) :=
  inferInstanceAs (Decidable (_ ∈ _))

/-- `sorted(str(s) for s in allowed)`, as its `repr`. -/
def allowedText (py : Python) (current : OrderStatus) : String :=
  if isTerminal current then "none (terminal state)"
  else py.reprList (((allowedTransitions current).map OrderStatus.text).mergeSort (· ≤ ·))

def transitionMessage (py : Python) (current next : OrderStatus) : String :=
  "Invalid order status transition: " ++ current.repr ++ " → " ++ next.repr ++
    ". Allowed from " ++ current.repr ++ ": " ++ allowedText py current ++ "."

def transitionError (py : Python) (current next : OrderStatus) : EngineError :=
  .orderStateTransition (transitionMessage py current next)

def transition (py : Python) (current next : OrderStatus) : Except EngineError OrderStatus :=
  if next ∈ allowedTransitions current then .ok next
  else .error (transitionError py current next)

theorem transition_of_edge {py : Python} {current next : OrderStatus}
    (edge : Edge current next) : transition py current next = .ok next :=
  if_pos edge

theorem transition_of_not_edge {py : Python} {current next : OrderStatus}
    (illegal : ¬ Edge current next) :
    transition py current next = .error (transitionError py current next) :=
  if_neg illegal

theorem not_edge_of_isTerminal {current : OrderStatus} (terminal : isTerminal current = true)
    (next : OrderStatus) : ¬ Edge current next := by
  have none := List.isEmpty_iff.mp terminal
  unfold Edge
  rw [none]
  exact List.not_mem_nil

theorem not_edge_self (status : OrderStatus) : ¬ Edge status status := by
  cases status <;> decide

/-! ### Histories -/

/-- A path of the transition table from the first status of an order to the last. -/
structure StatusPath (history : List OrderStatus) (last : OrderStatus) : Prop where
  first : history.head? = some .created
  edges : history.IsChain Edge
  ends : history.getLast? = some last

def recordStatus (history : List OrderStatus) (written : OrderStatus) : List OrderStatus :=
  if history.getLast? = some written then history else history ++ [written]

theorem StatusPath.start : StatusPath (recordStatus [] .created) .created :=
  { first := rfl
    edges := List.isChain_singleton _
    ends := rfl }

theorem StatusPath.recordStatus_same {history : List OrderStatus} {last : OrderStatus}
    (path : StatusPath history last) : recordStatus history last = history :=
  if_pos path.ends

theorem StatusPath.recordStatus_edge {history : List OrderStatus} {last next : OrderStatus}
    (path : StatusPath history last) (edge : Edge last next) :
    StatusPath (recordStatus history next) next := by
  have different : ¬ history.getLast? = some next := by
    intro same
    rw [path.ends] at same
    cases same
    exact not_edge_self _ edge
  unfold recordStatus
  rw [if_neg different]
  constructor
  · rw [List.head?_append, path.first]
    rfl
  · apply List.isChain_append.mpr
    refine ⟨path.edges, List.isChain_singleton _, ?_⟩
    intro before isLast after isNext
    rw [path.ends] at isLast
    cases isLast
    cases isNext
    exact edge
  · rw [List.getLast?_append]
    rfl

end TradingEngine.Execution
