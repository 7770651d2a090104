/-
The order manager.

An intent becomes a stored order, checked by the risk engine when there is one and
a snapshot is given.  The later hooks change the status through the ledger.
-/

import TradingEngine.Execution.Ledger

namespace TradingEngine.Execution

open Domain

variable {ρ : Type}

structure OrderManager (ρ : Type) where
  ledger : OrderLedger
  riskState : ρ

def invalidExchange (py : Python) (exchange : String) : EngineError :=
  .valueError (py.repr exchange ++ " is not a valid Exchange")

def timeInForceOf (validity : String) : TimeInForce :=
  if validity = "IOC" then .ioc else .day

/-- `_intent_to_internal_order` with the generated `internalOrderId`. -/
def intentToInternalOrder (py : Python) (internalOrderId : String) (intent : OrderIntent)
    (ts : Datetime) : Except EngineError InternalOrder :=
  match Exchange.ofText intent.exchange with
  | none => .error (invalidExchange py intent.exchange)
  | some exchange =>
      (InternalOrder.make py
        { internalOrderId := internalOrderId
          brokerOrderId := none
          strategyId := intent.strategyId
          symbol := intent.symbol
          exchange := exchange
          side := intent.side
          quantity := intent.quantity
          orderType := intent.orderType
          product := intent.product
          price := intent.price
          triggerPrice := intent.triggerPrice
          timeInForce := timeInForceOf intent.validity
          status := .created
          riskDecisionId := none
          createdAt := ts
          updatedAt := ts
          rawBrokerResponse := none }).mapError .raised

namespace OrderManager

def checkedStatus (decision : RiskDecision) : OrderStatus :=
  if decision.approved then .riskApproved else .riskRejected

def withDecision (order : InternalOrder) (decision : RiskDecision) : InternalOrder :=
  { order with riskDecisionId := some decision.riskDecisionId }

/-- The part of `create_order_from_intent` after the risk check. -/
def storeChecked (py : Python) (now : Datetime) (ledger : OrderLedger) (order : InternalOrder)
    (decision : RiskDecision) : Except EngineError (Option InternalOrder) × OrderLedger :=
  match ((ledger.addRiskDecision decision).addOrder order).updateOrderStatus py now
      order.internalOrderId (checkedStatus decision) none none with
  | (.error exception, ledger) => (.error exception, ledger)
  | (.ok updated, ledger) =>
      (.ok (if decision.approved then some (withDecision updated decision) else none),
        ledger.addOrder (withDecision updated decision))

/-- `create_order_from_intent`; `now` is the clock of the ledger. -/
def createOrderFromIntent (py : Python) (now : Datetime) (check : Option (RiskCheck ρ))
    (manager : OrderManager ρ) (internalOrderId : String) (intent : OrderIntent)
    (snapshot : Option PortfolioSnapshot) (ts : Datetime) :
    Except EngineError (Option InternalOrder) × OrderManager ρ :=
  match intentToInternalOrder py internalOrderId intent ts with
  | .error exception => (.error exception, manager)
  | .ok order =>
      match check, snapshot with
      | some check, some snapshot =>
          match check manager.riskState intent snapshot ts with
          | (.error exception, riskState) =>
              (.error exception, { manager with riskState := riskState })
          | (.ok decision, riskState) =>
              let stored := storeChecked py now manager.ledger order decision
              (stored.1, { ledger := stored.2, riskState := riskState })
      | _, _ => (.ok (some order), { manager with ledger := manager.ledger.addOrder order })

def markSubmitted (py : Python) (now : Datetime) (manager : OrderManager ρ)
    (internalOrderId : String) (brokerOrderId : Option String) (raw : Option RawOrder) :
    Except EngineError InternalOrder × OrderManager ρ :=
  let updated := manager.ledger.updateOrderStatus py now internalOrderId .submitted
    brokerOrderId raw
  (updated.1, { manager with ledger := updated.2 })

def markBrokerUpdate (py : Python) (now : Datetime) (manager : OrderManager ρ)
    (internalOrderId : String) (brokerStatus : OrderStatus) (raw : Option RawOrder) :
    Except EngineError InternalOrder × OrderManager ρ :=
  let updated := manager.ledger.updateOrderStatus py now internalOrderId brokerStatus none raw
  (updated.1, { manager with ledger := updated.2 })

end OrderManager

theorem intentToInternalOrder_fields {py : Python} {id : String} {intent : OrderIntent}
    {ts : Datetime} {order : InternalOrder}
    (made : intentToInternalOrder py id intent ts = .ok order) :
    order.internalOrderId = id ∧ order.status = .created ∧ order.riskDecisionId = none := by
  unfold intentToInternalOrder at made
  split at made
  · cases made
  · rename_i exchange _
    cases result : InternalOrder.make py _ with
    | error exception =>
        rw [result] at made
        cases made
    | ok built =>
        rw [result] at made
        cases made
        rw [InternalOrder.toOrderDraft_of_make result]
        exact ⟨rfl, rfl, rfl⟩

end TradingEngine.Execution
