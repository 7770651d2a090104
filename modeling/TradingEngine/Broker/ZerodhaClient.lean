/-
Order placement at the broker.

`placed` lists the calls of `kite.place_order` made so far.  What Kite answers is a
function of the earlier calls and the parameters of this one.
-/

import TradingEngine.LiveExecution.Safety

namespace TradingEngine.Broker

open Domain LiveExecution
open Signals (Side)

/-- The keyword arguments of `kite.place_order`. -/
structure KiteParams where
  variety : String
  exchange : String
  tradingsymbol : String
  transactionType : String
  quantity : ℤ
  orderType : String
  product : String
  price : Option ℚ
  triggerPrice : Option ℚ
  tag : String
deriving DecidableEq

/-- A dict, with its `order_id` if it has one, or another object; both with their `str`. -/
inductive KiteResponse where
  | dict (orderId : Option String) (shown : String)
  | other (shown : String)

def KiteResponse.brokerOrderId : KiteResponse → String
  | .dict orderId shown => orderId.getD shown
  | .other shown => shown

abbrev KiteClient := List KiteParams → KiteParams → Except EngineError KiteResponse

structure ZerodhaBroker where
  settings : Option Settings
  connected : Bool
  placed : List KiteParams

def notConnectedError : EngineError :=
  .brokerConnection "ZerodhaBroker is not connected. Call connect() before fetching data."

def kiteOrderType (py : Python) (orderType : Domain.OrderType) : String :=
  let text := py.upper orderType.text
  if text = "SL_M" then "SL-M" else text

def kiteParams (py : Python) (intent : OrderIntent) : KiteParams :=
  { variety := "regular"
    exchange := py.upper intent.exchange
    tradingsymbol := py.upper intent.symbol
    transactionType := py.upper (Side.text intent.side)
    quantity := intent.quantity
    orderType := kiteOrderType py intent.orderType
    product := py.upper intent.product.text
    price := intent.price
    triggerPrice := intent.triggerPrice
    tag := String.ofList (intent.strategyId.toList.take 20) }

namespace ZerodhaBroker

def defaultGuard (broker : ZerodhaBroker) : LiveExecutionSafetyGuard :=
  { settings := broker.settings
    killSwitch := none }

def placeOrder (py : Python) (kite : KiteClient) (broker : ZerodhaBroker) (intent : OrderIntent)
    (config : LivePilotConfig) (approval : ApprovalDecision) (risk : Option RiskDecision)
    (safetyGuard : Option LiveExecutionSafetyGuard) :
    Except EngineError String × ZerodhaBroker :=
  if broker.connected then
    match assertPilotOrderAllowed py (safetyGuard.getD broker.defaultGuard) intent config
        approval risk with
    | .error exception => (.error exception, broker)
    | .ok _ =>
        let params := kiteParams py intent
        let called := { broker with placed := broker.placed ++ [params] }
        match kite broker.placed params with
        | .error exception => (.error exception, called)
        | .ok response => (.ok response.brokerOrderId, called)
  else (.error notConnectedError, broker)

/-- Everything that `place_order` requires before it calls Kite. -/
structure PlacementAllowed (py : Python) (broker : ZerodhaBroker)
    (guard : LiveExecutionSafetyGuard) (intent : OrderIntent) (config : LivePilotConfig)
    (approval : ApprovalDecision) (risk : Option RiskDecision) : Prop where
  connected : broker.connected = true
  allowed : PilotOrderAllowed py guard intent config approval risk

variable {py : Python} {kite : KiteClient} {broker : ZerodhaBroker}
variable {guard : LiveExecutionSafetyGuard} {intent : OrderIntent} {config : LivePilotConfig}
variable {approval : ApprovalDecision} {risk : Option RiskDecision}

theorem placeOrder_of_allowed
    (allowed : PlacementAllowed py broker guard intent config approval risk) :
    (broker.placeOrder py kite intent config approval risk (some guard)).2 =
      { broker with placed := broker.placed ++ [kiteParams py intent] } := by
  unfold placeOrder
  rw [if_pos allowed.connected, Option.getD_some,
    assertPilotOrderAllowed_eq_ok_iff.mpr allowed.allowed]
  dsimp only
  split <;> rfl

theorem placeOrder_of_not_allowed
    (refused : ¬ PlacementAllowed py broker guard intent config approval risk) :
    ∃ exception, broker.placeOrder py kite intent config approval risk (some guard) =
      (.error exception, broker) := by
  unfold placeOrder
  split_ifs with connected
  · rw [Option.getD_some]
    cases checked : assertPilotOrderAllowed py guard intent config approval risk with
    | error exception => exact ⟨exception, rfl⟩
    | ok _ =>
        exact absurd ⟨connected, assertPilotOrderAllowed_eq_ok_iff.mp checked⟩ refused
  · exact ⟨notConnectedError, rfl⟩

theorem placeOrder_ok_iff_called (broker : ZerodhaBroker) :
    (broker.placeOrder py kite intent config approval risk (some guard)).2.placed ≠
        broker.placed ↔
      PlacementAllowed py broker guard intent config approval risk := by
  by_cases allowed : PlacementAllowed py broker guard intent config approval risk
  · rw [placeOrder_of_allowed allowed]
    simp [allowed]
  · have refused : ∃ exception,
        broker.placeOrder py kite intent config approval risk (some guard) =
          (.error exception, broker) :=
      placeOrder_of_not_allowed allowed
    obtain ⟨exception, result⟩ := refused
    rw [result]
    simp [allowed]

end ZerodhaBroker

/-! ### The parameters -/

theorem isUpperAscii_orderType (orderType : Domain.OrderType) : IsUpperAscii orderType.text := by
  cases orderType <;> decide

theorem kiteOrderType_eq (py : Python) (orderType : Domain.OrderType) :
    kiteOrderType py orderType = orderType.text := by
  unfold kiteOrderType
  rw [py.upper_of_isUpperAscii _ (isUpperAscii_orderType orderType)]
  cases orderType <;> rfl

end TradingEngine.Broker
