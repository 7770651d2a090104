/-
The mappers from raw broker rows to the records of the engine.

A mapper reads the row field by field and raises at the first field that it
cannot use.  Statuses never raise: a text outside the status table is `UNKNOWN`.
-/

import Mathlib.Data.Rat.Floor
import TradingEngine.Domain.Models

/-! ### Raw values -/

namespace TradingEngine.Domain.RawValue

def truthy : RawValue → Bool
  | .absent => false
  | .null => false
  | .text value => value ≠ ""
  | .number value _ => value ≠ 0
  | .moment _ => true
  | .other _ truthy => truthy

/-- `left or right`. -/
def or (left right : RawValue) : RawValue :=
  if truthy left then left else right

/-- `raw.get(key, default)`. -/
def getD (value default : RawValue) : RawValue :=
  if value = .absent then default else value

/-- The text of a value on which a string method is called. -/
def asText : RawValue → Except Raised String
  | .text value => .ok value
  | _ => .error .attributeError

/-- A value for the string field `field` of a record. -/
def textField (field : String) : RawValue → Except Raised String
  | .text value => .ok value
  | _ => .error (.validationError field)

/-- The same for a field that may be `None`. -/
def textFieldOrNone (field : String) : RawValue → Except Raised (Option String)
  | .absent => .ok none
  | .null => .ok none
  | .text value => .ok (some value)
  | _ => .error (.validationError field)

/-- `int(value)`. -/
def toInt (py : Python) : RawValue → Except Raised ℤ
  | .text value => (py.int value).elim (.error .valueError) .ok
  | .number value _ => .ok (if value < 0 then ⌈value⌉ else ⌊value⌋)
  | _ => .error .typeError

/-- `Decimal(str(value))`. -/
def toDecimal (py : Python) : RawValue → Except Raised ℚ
  | .text value => (py.decimal value).elim (.error .invalidOperation) .ok
  | .number value _ => .ok value
  | .other shown _ => (py.decimal shown).elim (.error .invalidOperation) .ok
  | _ => .error .invalidOperation

end TradingEngine.Domain.RawValue

namespace TradingEngine.Broker

open Domain
open Signals (Side)

def timestampFormats : List String :=
  ["%Y-%m-%d %H:%M:%S", "%Y-%m-%dT%H:%M:%S"]

/-- The first format that reads the text. -/
def parseText (py : Python) (text : String) : Option Datetime :=
  timestampFormats.findSome? (py.strptime text)

def parseZerodhaTimestamp (py : Python) (value : RawValue) (fieldName : String) :
    Except MappingError Datetime :=
  match value with
  | .moment time => .ok time
  | .text text =>
      if text = "" then .error (.missingTimestamp fieldName)
      else (parseText py text).elim (.error (.badTimestamp (py.repr text) fieldName)) .ok
  | .number _ shown | .other shown _ =>
      if value.truthy then
        (parseText py shown).elim (.error (.badTimestamp shown fieldName)) .ok
      else .error (.missingTimestamp fieldName)
  | .absent | .null => .error (.missingTimestamp fieldName)

def require (key : String) (value : RawValue) : Except MappingError RawValue :=
  if value = .absent ∨ value = .null ∨ value = .text "" then .error (.missingField key)
  else .ok value

def decimalOrNone (py : Python) (value : RawValue) : Except Raised (Option ℚ) :=
  if value = .null then .ok none
  else (value.toDecimal py).map (fun decimal => if decimal = 0 then none else some decimal)

/-! ### Scalar mappers -/

def normalized (py : Python) (text : String) : String :=
  py.upper (py.strip text)

def zerodhaStatusMap : List (String × OrderStatus) :=
  [("COMPLETE", .filled),
    ("OPEN", .opened),
    ("TRIGGER PENDING", .opened),
    ("AMO REQ RECEIVED", .submitted),
    ("PENDING", .submitted),
    ("VALIDATION PENDING", .submitted),
    ("PUT ORDER REQ RECEIVED", .submitted),
    ("MODIFY PENDING", .opened),
    ("MODIFY VALIDATION PENDING", .opened),
    ("AFTER MARKET ORDER REQ RECEIVED", .submitted),
    ("CANCELLED", .cancelled),
    ("REJECTED", .rejected)]

def mapZerodhaOrderStatus (py : Python) (status : String) : OrderStatus :=
  (zerodhaStatusMap.lookup (normalized py status)).getD .unknown

/-- The statuses that a broker row can be mapped to. -/
def reportedStatuses : List OrderStatus :=
  [.submitted, .opened, .filled, .cancelled, .rejected, .unknown]

theorem mapZerodhaOrderStatus_mem (py : Python) (status : String) :
    mapZerodhaOrderStatus py status ∈ reportedStatuses := by
  unfold mapZerodhaOrderStatus
  cases found : zerodhaStatusMap.lookup (normalized py status) with
  | none => decide
  | some mapped =>
      obtain ⟨before, after, split, _⟩ := List.lookup_eq_some_iff.mp found
      have listed : (normalized py status, mapped) ∈ zerodhaStatusMap := by
        rw [split]
        simp
      have image : ∀ entry ∈ zerodhaStatusMap, entry.2 ∈ reportedStatuses := by
        decide
      exact image _ listed

def zerodhaValidityMap : List (String × TimeInForce) :=
  [("DAY", .day), ("IOC", .ioc), ("TTL", .day)]

def mapZerodhaSide (py : Python) (transactionType : String) : Except MappingError Side :=
  if normalized py transactionType = "BUY" then .ok .buy
  else if normalized py transactionType = "SELL" then .ok .sell
  else .error (.unknown "transaction_type" transactionType "'BUY' or 'SELL'")

/-- A lookup in the table of one of the mappers below, which lists its keys when it fails. -/
def mapByTable {α : Type} (py : Python) (kind : String) (table : List (String × α))
    (text : String) : Except MappingError α :=
  (table.lookup (normalized py text)).elim
    (.error (.unknown kind text ("one of " ++ py.reprList (table.map Prod.fst)))) .ok

def mapZerodhaOrderType (py : Python) : String → Except MappingError Domain.OrderType :=
  mapByTable py "order_type"
    [("MARKET", .market), ("LIMIT", .limit), ("SL", .sl), ("SL-M", .slM)]

def mapZerodhaProduct (py : Python) : String → Except MappingError ProductType :=
  mapByTable py "product" [("MIS", .mis), ("CNC", .cnc), ("NRML", .nrml)]

def mapZerodhaExchange (py : Python) : String → Except MappingError Exchange :=
  mapByTable py "exchange" [("NSE", .nse), ("BSE", .bse)]

/-! ### Composite mappers -/

/-- `str(exc)` of a mapping error of `map_zerodha_order`. -/
def mappingErrorText (py : Python) : MappingError → String
  | .missingField key =>
      "Required field " ++ py.repr key ++ " is missing or empty in raw broker response."
  | .missingTimestamp field => "Missing required timestamp field: " ++ py.repr field
  | .badTimestamp shown field =>
      "Cannot parse timestamp " ++ shown ++ " for field " ++ py.repr field ++
        ". Expected formats: " ++ py.reprList timestampFormats
  | .unknown kind value expected =>
      "Unknown Zerodha " ++ kind ++ " " ++ py.repr value ++ ". Expected " ++ expected ++ "."
  | .failed cause => "Failed to map Zerodha order to InternalOrder: " ++ py.excText cause

def wrapped {α : Type} (result : Except Raised α) : Except MappingError α :=
  result.mapError .failed

/-- `map_zerodha_order` with the generated `internalOrderId`. -/
def mapZerodhaOrder (py : Python) (internalOrderId : String) (raw : RawOrder) :
    Except MappingError InternalOrder := do
  let symbol ← require "tradingsymbol" raw.tradingsymbol
  let exchange ← mapZerodhaExchange py
    (← wrapped (← require "exchange" raw.exchange).asText)
  let side ← mapZerodhaSide py
    (← wrapped (← require "transaction_type" raw.transactionType).asText)
  let orderType ← mapZerodhaOrderType py
    (← wrapped (← require "order_type" raw.orderType).asText)
  let product ← mapZerodhaProduct py
    (← wrapped (← require "product" raw.product).asText)
  let quantity ← wrapped ((← require "quantity" raw.quantity).toInt py)
  let statusText ← wrapped (raw.status.or (.text "UNKNOWN")).asText
  let createdAt ← parseZerodhaTimestamp py raw.orderTimestamp "order_timestamp"
  let reportedAt ← parseZerodhaTimestamp py
    (raw.exchangeUpdateTimestamp.or raw.orderTimestamp) "updated_at"
  let price ← wrapped (decimalOrNone py (raw.price.getD (.number 0 "0")))
  let triggerPrice ← wrapped (decimalOrNone py (raw.triggerPrice.getD (.number 0 "0")))
  let validity ← wrapped (raw.validity.or (.text "DAY")).asText
  let brokerOrderId ← wrapped ((raw.orderId.or .null).textFieldOrNone "broker_order_id")
  let strategyId ← wrapped
    ((raw.tag.or (raw.strategyId.or (.text "external"))).textField "strategy_id")
  let symbolText ← wrapped (symbol.textField "symbol")
  wrapped (InternalOrder.make py
    { internalOrderId := internalOrderId
      brokerOrderId := brokerOrderId
      strategyId := strategyId
      symbol := symbolText
      exchange := exchange
      side := side
      quantity := quantity
      orderType := orderType
      product := product
      price := price
      triggerPrice := triggerPrice
      timeInForce := (zerodhaValidityMap.lookup (normalized py validity)).getD .day
      status := mapZerodhaOrderStatus py statusText
      riskDecisionId := none
      createdAt := createdAt
      -- an exchange time before the order time is set to the order time
      updatedAt := if reportedAt < createdAt then createdAt else reportedAt
      rawBrokerResponse := some raw })

/-! ### Mapped orders -/

theorem exists_of_bind_eq_ok {ε α β : Type} {first : Except ε α} {next : α → Except ε β}
    {result : β} (ok : first >>= next = .ok result) :
    ∃ value, first = .ok value ∧ next value = .ok result := by
  cases first with
  | error exception => cases ok
  | ok value => exact ⟨value, rfl, ok⟩

theorem eq_of_wrapped {α : Type} {result : Except Raised α} {value : α}
    (ok : wrapped result = .ok value) : result = .ok value := by
  cases result with
  | error exception => cases ok
  | ok value => exact congrArg Except.ok (Except.ok.inj ok)

theorem status_mem_of_mapZerodhaOrder {py : Python} {id : String} {raw : RawOrder}
    {order : InternalOrder} (mapped : mapZerodhaOrder py id raw = .ok order) :
    order.status ∈ reportedStatuses := by
  unfold mapZerodhaOrder at mapped
  iterate 24 obtain ⟨_, _, mapped⟩ := exists_of_bind_eq_ok mapped
  rw [InternalOrder.toOrderDraft_of_make (eq_of_wrapped mapped)]
  exact mapZerodhaOrderStatus_mem py _

def withId (id : String) (order : InternalOrder) : InternalOrder :=
  { order with internalOrderId := id }

theorem mapZerodhaOrder_withId (py : Python) (id other : String) (raw : RawOrder) :
    mapZerodhaOrder py other raw = withId other <$> mapZerodhaOrder py id raw := by
  unfold mapZerodhaOrder
  simp only [map_bind]
  repeat refine bind_congr fun _ => ?_
  unfold wrapped InternalOrder.make
  split_ifs <;> rfl

/-! ### Positions -/

/-- The fields of a raw Zerodha position that the mapper reads. -/
structure RawPosition where
  tradingsymbol : RawValue
  exchange : RawValue
  product : RawValue
  quantity : RawValue
  averagePrice : RawValue
  lastPrice : RawValue
  realised : RawValue
  unrealised : RawValue
deriving DecidableEq

/-- `Decimal(str(value or 0))`. -/
def decimalOrZero (py : Python) (value : RawValue) : Except Raised ℚ :=
  (value.or (.number 0 "0")).toDecimal py

/-- `Position(...)`. -/
def makePosition (py : Python) (position : Domain.Position) : Except Raised Domain.Position :=
  if py.isBlank position.symbol then .error (.validationError "symbol")
  else if position.averagePrice < 0 then .error (.validationError "average_price")
  else if ∃ price ∈ position.lastPrice, price < 0 then .error (.validationError "last_price")
  else .ok position

def mapZerodhaPosition (py : Python) (fetchedAt : Datetime) (raw : RawPosition) :
    Except MappingError Domain.Position := do
  let symbol ← require "tradingsymbol" raw.tradingsymbol
  let exchange ← mapZerodhaExchange py
    (← wrapped (← require "exchange" raw.exchange).asText)
  let product ← mapZerodhaProduct py
    (← wrapped (← require "product" raw.product).asText)
  let quantity ← wrapped ((raw.quantity.getD (.number 0 "0")).toInt py)
  let averagePrice ← wrapped (decimalOrZero py raw.averagePrice)
  let lastPrice ← wrapped
    (if raw.lastPrice = .absent ∨ raw.lastPrice = .null then .ok none
    else (raw.lastPrice.toDecimal py).map some)
  let realizedPnl ← wrapped (decimalOrZero py raw.realised)
  let unrealizedPnl ← wrapped (decimalOrZero py raw.unrealised)
  let symbolText ← wrapped (symbol.textField "symbol")
  wrapped (makePosition py
    { symbol := symbolText
      exchange := exchange
      product := product
      quantity := quantity
      averagePrice := averagePrice
      lastPrice := lastPrice
      realizedPnl := realizedPnl
      unrealizedPnl := unrealizedPnl
      updatedAt := fetchedAt })

end TradingEngine.Broker
