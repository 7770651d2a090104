/-
The in-memory order ledger.

An operation gives its result and the ledger it leaves behind, also when it raises.
`log` keeps the debug records of the ledger, one for every write, and with them
the status history of each order.
-/

import TradingEngine.Execution.StateMachine
import TradingEngine.General.OrderedDict

namespace TradingEngine.Execution

open Domain

inductive LedgerRecord where
  | added (internalOrderId : String) (status : OrderStatus)
  | transitioned (internalOrderId : String) (status newStatus : OrderStatus)
  | riskDecision (riskDecisionId : String) (approved : Bool)
deriving DecidableEq

def LedgerRecord.written (internalOrderId : String) : LedgerRecord → Option OrderStatus
  | .added id status => if id = internalOrderId then some status else none
  | .transitioned id _ newStatus => if id = internalOrderId then some newStatus else none
  | .riskDecision _ _ => none

structure OrderLedger where
  orders : OrderedDict String InternalOrder
  riskDecisions : List RiskDecision
  log : List LedgerRecord
  keyed : ∀ entry ∈ orders.entries, entry.2.internalOrderId = entry.1

namespace OrderLedger

def empty : OrderLedger :=
  { orders := OrderedDict.empty
    riskDecisions := []
    log := []
    keyed := fun _ member => nomatch member }

def order? (ledger : OrderLedger) (internalOrderId : String) : Option InternalOrder :=
  ledger.orders.get? internalOrderId

def listOrders (ledger : OrderLedger) : List InternalOrder :=
  ledger.orders.entries.map Prod.snd

def statusHistory (ledger : OrderLedger) (internalOrderId : String) : List OrderStatus :=
  (ledger.log.filterMap (LedgerRecord.written internalOrderId)).foldl recordStatus []

private theorem keyed_insert {orders : OrderedDict String InternalOrder}
    (keyed : ∀ entry ∈ orders.entries, entry.2.internalOrderId = entry.1)
    {id : String} {order : InternalOrder} (same : order.internalOrderId = id) :
    ∀ entry ∈ (orders.insert id order).entries, entry.2.internalOrderId = entry.1 := by
  intro entry member
  rcases OrderedDict.mem_insert_iff.mp member with ⟨keyEq, valueEq⟩ | ⟨_, old⟩
  · rw [keyEq, valueEq]
    exact same
  · exact keyed entry old

def addOrder (ledger : OrderLedger) (order : InternalOrder) : OrderLedger :=
  { ledger with
    orders := ledger.orders.insert order.internalOrderId order
    log := ledger.log ++ [.added order.internalOrderId order.status]
    keyed := keyed_insert ledger.keyed rfl }

def addRiskDecision (ledger : OrderLedger) (decision : RiskDecision) : OrderLedger :=
  { ledger with
    riskDecisions := ledger.riskDecisions ++ [decision]
    log := ledger.log ++ [.riskDecision decision.riskDecisionId decision.approved] }

def orderNotFound (py : Python) (internalOrderId : String) : EngineError :=
  .orderNotFound ("No order found with internal_order_id=" ++ py.repr internalOrderId ++ ".")

/-- The `model_copy` of `update_order_status`. -/
def updated (order : InternalOrder) (newStatus : OrderStatus) (now : Datetime)
    (brokerOrderId : Option String) (raw : Option RawOrder) : InternalOrder :=
  { order with
    status := newStatus
    updatedAt := now
    brokerOrderId := brokerOrderId.or order.brokerOrderId
    rawBrokerResponse := raw.or order.rawBrokerResponse }

/-- `update_order_status` at the time `now`. -/
def updateOrderStatus (py : Python) (now : Datetime) (ledger : OrderLedger)
    (internalOrderId : String) (newStatus : OrderStatus) (brokerOrderId : Option String)
    (raw : Option RawOrder) : Except EngineError InternalOrder × OrderLedger :=
  match found : ledger.orders.get? internalOrderId with
  | none => (.error (orderNotFound py internalOrderId), ledger)
  | some order =>
      match transition py order.status newStatus with
      | .error exception => (.error exception, ledger)
      | .ok status =>
          (.ok (updated order status now brokerOrderId raw),
            { ledger with
              orders := ledger.orders.insert internalOrderId
                (updated order status now brokerOrderId raw)
              log := ledger.log ++ [.transitioned internalOrderId order.status status]
              keyed := keyed_insert ledger.keyed
                (ledger.keyed _ (OrderedDict.get?_eq_some_iff.mp found)) })

variable {ledger : OrderLedger}

/-! ### Orders after a write -/

theorem mem_listOrders_iff {order : InternalOrder} :
    order ∈ ledger.listOrders ↔ ledger.order? order.internalOrderId = some order := by
  constructor
  · intro member
    obtain ⟨entry, present, rfl⟩ := List.mem_map.mp member
    apply OrderedDict.get?_eq_some_iff.mpr
    rw [ledger.keyed entry present]
    exact present
  · intro found
    exact List.mem_map.mpr ⟨_, OrderedDict.get?_eq_some_iff.mp found, rfl⟩

theorem order?_addOrder (ledger : OrderLedger) (order : InternalOrder) (id : String) :
    (ledger.addOrder order).order? id =
      if id = order.internalOrderId then some order else ledger.order? id :=
  OrderedDict.get?_insert _ _ _ _

@[simp] theorem order?_addRiskDecision (ledger : OrderLedger) (decision : RiskDecision)
    (id : String) : (ledger.addRiskDecision decision).order? id = ledger.order? id :=
  rfl

/-- What a successful status update leaves behind. -/
structure Updated (ledger : OrderLedger) (id : String) (order : InternalOrder)
    (after : InternalOrder) (next : OrderLedger) : Prop where
  order? : ∀ other, next.order? other = if other = id then some after else ledger.order? other
  keys : next.orders.keys = ledger.orders.keys
  riskDecisions : next.riskDecisions = ledger.riskDecisions
  log : next.log = ledger.log ++ [.transitioned id order.status after.status]

theorem keys_insert_of_get?_some {dict : OrderedDict String InternalOrder} {id : String}
    {old new : InternalOrder} (found : dict.get? id = some old) :
    (dict.insert id new).keys = dict.keys := by
  have present := OrderedDict.mem_keys_of_mem (OrderedDict.get?_eq_some_iff.mp found)
  exact (OrderedDict.keys_insert dict id new).trans (if_pos present)

theorem updateOrderStatus_cases (py : Python) (now : Datetime) (ledger : OrderLedger)
    (id : String) (newStatus : OrderStatus) (brokerOrderId : Option String)
    (raw : Option RawOrder) :
    (∃ order, ledger.order? id = some order ∧ Edge order.status newStatus ∧
      ∃ next, Updated ledger id order (updated order newStatus now brokerOrderId raw) next ∧
        ledger.updateOrderStatus py now id newStatus brokerOrderId raw =
          (.ok (updated order newStatus now brokerOrderId raw), next)) ∨
      ∃ exception,
        (∀ order, ledger.order? id = some order →
          ¬ Edge order.status newStatus ∧
            exception = transitionError py order.status newStatus) ∧
        ledger.updateOrderStatus py now id newStatus brokerOrderId raw =
          (.error exception, ledger) := by
  unfold updateOrderStatus
  split
  · rename_i missing
    right
    refine ⟨_, ?_, rfl⟩
    intro order found
    cases missing.symm.trans found
  · rename_i order found
    by_cases edge : Edge order.status newStatus
    · left
      refine ⟨order, found, edge, ?_⟩
      rw [transition_of_edge edge]
      refine ⟨_, ?_, rfl⟩
      exact
        { order? := fun other => OrderedDict.get?_insert _ _ _ _
          keys := keys_insert_of_get?_some found
          riskDecisions := rfl
          log := rfl }
    · right
      rw [transition_of_not_edge edge]
      refine ⟨_, ?_, rfl⟩
      intro other foundOther
      cases found.symm.trans foundOther
      exact ⟨edge, rfl⟩

theorem updateOrderStatus_of_edge (py : Python) (now : Datetime) {id : String}
    {order : InternalOrder} {newStatus : OrderStatus} (found : ledger.order? id = some order)
    (edge : Edge order.status newStatus) (brokerOrderId : Option String)
    (raw : Option RawOrder) :
    ∃ next, Updated ledger id order (updated order newStatus now brokerOrderId raw) next ∧
      ledger.updateOrderStatus py now id newStatus brokerOrderId raw =
        (.ok (updated order newStatus now brokerOrderId raw), next) := by
  rcases updateOrderStatus_cases py now ledger id newStatus brokerOrderId raw with
    ⟨other, foundOther, _, next, changed, result⟩ | ⟨_, illegal, _⟩
  · cases found.symm.trans foundOther
    exact ⟨next, changed, result⟩
  · exact absurd edge (illegal order found).1

/-! ### Histories -/

theorem statusHistory_append {next : OrderLedger} {record : LedgerRecord} (id : String)
    (log : next.log = ledger.log ++ [record]) :
    next.statusHistory id =
      (record.written id).elim (ledger.statusHistory id)
        (recordStatus (ledger.statusHistory id)) := by
  unfold statusHistory
  rw [log, List.filterMap_append, List.foldl_append]
  cases written : record.written id with
  | none => simp [written]
  | some status => simp [written]

theorem statusHistory_addOrder (ledger : OrderLedger) (order : InternalOrder) (id : String) :
    (ledger.addOrder order).statusHistory id =
      if id = order.internalOrderId then recordStatus (ledger.statusHistory id) order.status
      else ledger.statusHistory id := by
  rw [statusHistory_append id rfl, LedgerRecord.written]
  by_cases same : order.internalOrderId = id
  · simp [same]
  · simp [same, Ne.symm same]

@[simp] theorem statusHistory_addRiskDecision (ledger : OrderLedger) (decision : RiskDecision)
    (id : String) :
    (ledger.addRiskDecision decision).statusHistory id = ledger.statusHistory id := by
  rw [statusHistory_append id rfl, LedgerRecord.written]
  rfl

theorem Updated.statusHistory {id : String} {order after : InternalOrder} {next : OrderLedger}
    (changed : Updated ledger id order after next) (other : String) :
    next.statusHistory other =
      if other = id then recordStatus (ledger.statusHistory other) after.status
      else ledger.statusHistory other := by
  rw [statusHistory_append other changed.log, LedgerRecord.written]
  by_cases same : id = other
  · simp [same]
  · simp [same, Ne.symm same]

end OrderLedger

end TradingEngine.Execution
