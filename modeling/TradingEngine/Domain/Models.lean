/-
The records that the parts of the engine exchange.

What the record types check on construction is a field here, so a record that
they would reject cannot be built.  Money is in exact rationals.
-/

import TradingEngine.Domain.Enums
import TradingEngine.Python

namespace TradingEngine.Domain

open Signals (Side)

/-! ### Bars -/

/-- `Bar` of `strategy/signals.py` with what `__post_init__` checks. -/
structure Bar where
  symbol : String
  exchange : String
  timestamp : Datetime
  openPrice : ℚ
  high : ℚ
  low : ℚ
  close : ℚ
  volume : ℕ
  interval : String
  low_le_high : low ≤ high
deriving DecidableEq

/-- A minute bar with one price, for concrete runs. -/
def flatBar (symbol : String) (timestamp : Datetime) (price : ℚ) : Domain.Bar :=
  { symbol := symbol
    exchange := "NSE"
    timestamp := timestamp
    openPrice := price
    high := price
    low := price
    close := price
    volume := 1000
    interval := "minute"
    low_le_high := le_refl price }

/-- The calendar day of a timestamp in exchange time. -/
def tradingDay (ts : Datetime) : ℤ :=
  ts / 86400000000

/-! ### Intents -/

/-- The checks of `OrderIntent.__post_init__` that its field types leave open. -/
structure IntentShape (quantity : ℤ) (orderType : OrderType) (price triggerPrice : Option ℚ) :
    Prop where
  quantity_pos : 0 < quantity
  limit_priced : orderType = .limit → price ≠ none
  stop_triggered : orderType = .sl ∨ orderType = .slM → triggerPrice ≠ none

structure OrderIntent where
  strategyId : String
  symbol : String
  exchange : String
  side : Side
  quantity : ℤ
  orderType : OrderType
  product : ProductType
  validity : String
  price : Option ℚ
  triggerPrice : Option ℚ
  shape : IntentShape quantity orderType price triggerPrice
deriving DecidableEq

/-- A market order for ten shares, for concrete runs. -/
def sampleIntent : OrderIntent :=
  { strategyId := "ma_pullback"
    symbol := "INFY"
    exchange := "NSE"
    side := .buy
    quantity := 10
    orderType := .market
    product := .cnc
    validity := "DAY"
    price := none
    triggerPrice := none
    shape :=
      { quantity_pos := by decide
        limit_priced := nofun
        stop_triggered := by rintro (limit | limit) <;> cases limit } }

/-! ### Risk decisions -/

structure RiskDecision where
  riskDecisionId : String
  approved : Bool
  reasonCode : RiskReasonCode
  reasonMessage : String
  checkedLimits : List (String × String)
  timestamp : Datetime
  consistent : approved = false → reasonCode ≠ .approved
deriving DecidableEq

theorem approved_consistent : true = false → RiskReasonCode.approved ≠ .approved :=
  nofun

/-! ### Raw broker rows -/

/-- What a key of a raw row holds.  A number and any other object come with the text that
`str` gives. -/
inductive RawValue where
  | absent
  | null
  | text (value : String)
  | number (value : ℚ) (text : String)
  | moment (value : Datetime)
  | other (text : String) (truthy : Bool)
deriving DecidableEq

/-- The fields of a raw Zerodha order that the mapper reads. -/
structure RawOrder where
  orderId : RawValue
  tradingsymbol : RawValue
  exchange : RawValue
  transactionType : RawValue
  orderType : RawValue
  product : RawValue
  quantity : RawValue
  status : RawValue
  orderTimestamp : RawValue
  exchangeUpdateTimestamp : RawValue
  price : RawValue
  triggerPrice : RawValue
  validity : RawValue
  tag : RawValue
  strategyId : RawValue
deriving DecidableEq

/-! ### Orders -/

/-- The checks of `InternalOrder` on quantity and prices. -/
structure OrderShape (quantity : ℤ) (orderType : OrderType) (price triggerPrice : Option ℚ) :
    Prop where
  quantity_pos : 0 < quantity
  price_pos : ∀ value, price = some value → 0 < value
  trigger_pos : ∀ value, triggerPrice = some value → 0 < value
  limit_priced : orderType = .limit → price ≠ none
  stop_triggered : orderType = .sl ∨ orderType = .slM → triggerPrice ≠ none

def positiveIfGiven (price : Option ℚ) : Bool :=
  price.all (fun value => 0 < value)

instance (quantity : ℤ) (orderType : OrderType) (price triggerPrice : Option ℚ) :
    Decidable (OrderShape quantity orderType price triggerPrice) :=
  decidable_of_iff (0 < quantity ∧ positiveIfGiven price = true ∧
      positiveIfGiven triggerPrice = true ∧ (orderType = .limit → price ≠ none) ∧
      (orderType = .sl ∨ orderType = .slM → triggerPrice ≠ none))
    ⟨fun ⟨quantity_pos, price_pos, trigger_pos, limit_priced, stop_triggered⟩ =>
      { quantity_pos := quantity_pos
        price_pos := fun value given => by simpa [positiveIfGiven, given] using price_pos
        trigger_pos := fun value given => by simpa [positiveIfGiven, given] using trigger_pos
        limit_priced := limit_priced
        stop_triggered := stop_triggered },
    fun shape =>
      ⟨shape.quantity_pos, by cases price <;> simp_all [positiveIfGiven, shape.price_pos],
        by cases triggerPrice <;> simp_all [positiveIfGiven, shape.trigger_pos],
        shape.limit_priced, shape.stop_triggered⟩⟩

/-- The arguments of `InternalOrder`. -/
structure OrderDraft where
  internalOrderId : String
  brokerOrderId : Option String
  strategyId : String
  symbol : String
  exchange : Exchange
  side : Side
  quantity : ℤ
  orderType : OrderType
  product : ProductType
  price : Option ℚ
  triggerPrice : Option ℚ
  timeInForce : TimeInForce
  status : OrderStatus
  riskDecisionId : Option String
  createdAt : Datetime
  updatedAt : Datetime
  rawBrokerResponse : Option RawOrder
deriving DecidableEq

structure InternalOrder extends OrderDraft where
  shape : OrderShape quantity orderType price triggerPrice
deriving DecidableEq

/-- The first field that `InternalOrder` rejects, or the record for its last check. -/
def OrderDraft.fault (draft : OrderDraft) : String :=
  if draft.quantity ≤ 0 then "quantity"
  else if ¬ positiveIfGiven draft.price then "price"
  else if ¬ positiveIfGiven draft.triggerPrice then "trigger_price"
  else "InternalOrder"

/-- `InternalOrder(...)`. -/
def InternalOrder.make (py : Python) (draft : OrderDraft) : Except Raised InternalOrder :=
  if py.isBlank draft.strategyId then .error (.validationError "strategy_id")
  else if py.isBlank draft.symbol then .error (.validationError "symbol")
  else if draft.updatedAt < draft.createdAt then .error (.validationError "InternalOrder")
  else if shape : OrderShape draft.quantity draft.orderType draft.price draft.triggerPrice then
    .ok { draft with shape := shape }
  else .error (.validationError draft.fault)

theorem InternalOrder.toOrderDraft_of_make {py : Python} {draft : OrderDraft}
    {order : InternalOrder} (made : InternalOrder.make py draft = .ok order) :
    order.toOrderDraft = draft := by
  unfold InternalOrder.make at made
  split_ifs at made
  cases made
  rfl

/-! ### Fills and positions -/

structure TradeFill where
  fillId : String
  symbol : String
  exchange : Exchange
  side : Side
  quantity : ℕ
  price : ℚ
  fees : ℚ
  timestamp : Datetime
  quantity_pos : 0 < quantity
  price_pos : 0 < price
  fees_nonneg : 0 ≤ fees

structure Position where
  symbol : String
  exchange : Exchange
  product : ProductType
  quantity : ℤ
  averagePrice : ℚ
  lastPrice : Option ℚ
  realizedPnl : ℚ
  unrealizedPnl : ℚ
  updatedAt : Datetime
deriving DecidableEq

/-- What the risk engine reads of a snapshot. -/
structure PortfolioSnapshot where
  positions : List Position
  realizedPnl : ℚ
  unrealizedPnl : ℚ
deriving DecidableEq

def emptySnapshot : PortfolioSnapshot :=
  { positions := []
    realizedPnl := 0
    unrealizedPnl := 0 }

/-! ### Errors -/

/-- The texts of a `BrokerMappingError`. -/
inductive MappingError where
  | missingField (key : String)
  | missingTimestamp (field : String)
  | badTimestamp (shown field : String)
  | unknown (kind value : String) (expected : String)
  | failed (cause : Raised)
deriving DecidableEq

/-- The exceptions of the engine, with their messages. -/
inductive EngineError where
  | safety (message : String)
  | brokerConnection (message : String)
  | manualApprovalRequired (message approvalId : String)
  | orderStateTransition (message : String)
  | orderNotFound (message : String)
  | keyError (message : String)
  | valueError (message : String)
  | raised (exception : Raised)
  | kite (message : String)
  | orderValidation (message : String)
  | zeroDivision (message : String)
deriving DecidableEq

/-- `check_order_intent` of a risk engine with the state `ρ`. -/
abbrev RiskCheck (ρ : Type) : Type :=
  ρ → OrderIntent → PortfolioSnapshot → Datetime → Except EngineError RiskDecision × ρ

/-- A risk engine that approves everything. -/
def approveAll : RiskCheck Unit :=
  fun state _ _ ts =>
    (.ok
      { riskDecisionId := "risk_1"
        approved := true
        reasonCode := .approved
        reasonMessage := "All checks passed."
        checkedLimits := []
        timestamp := ts
        consistent := approved_consistent }, state)

end TradingEngine.Domain
