/-
The way of an order through Zerodha and back.

`place_order` sends an intent as the parameters of a call, and the mapper reads a row
of the order book that echoes them.  Kite takes at most twenty characters of the
strategy id as a tag, and prices travel as floats.
-/

import Mathlib.Data.List.TakeWhile
import TradingEngine.Broker.Mappers
import TradingEngine.LiveExecution.Gating

namespace TradingEngine.Broker

open Domain LiveExecution
open Signals (Side)

/-! ### The order book -/

/-- What Kite reports of an order besides the parameters that it was sent. -/
structure OrderReport where
  status : String
  orderTimestamp : RawValue
  exchangeUpdateTimestamp : RawValue
deriving DecidableEq

/-- The timestamps of a report can be read. -/
structure OrderReport.Readable (py : Python) (report : OrderReport) : Prop where
  created : ∃ createdAt,
    parseZerodhaTimestamp py report.orderTimestamp "order_timestamp" = .ok createdAt
  updated : ∃ reportedAt, parseZerodhaTimestamp py
    (report.exchangeUpdateTimestamp.or report.orderTimestamp) "updated_at" = .ok reportedAt

/-- A price as Kite holds it: `float price` is the decimal that the float of the price
shows, and `shown` its text. -/
def echoedPrice (float : ℚ → ℚ) (shown : ℚ → String) (price : Option ℚ) : RawValue :=
  price.elim .absent (fun value => .number (float value) (shown value))

/-- The row of an order that echoes its parameters.  No validity is sent, so it is `DAY`. -/
def orderBookRow (float : ℚ → ℚ) (shown : ℚ → String) (report : OrderReport)
    (brokerOrderId : String) (params : KiteParams) : RawOrder :=
  { orderId := .text brokerOrderId
    tradingsymbol := .text params.tradingsymbol
    exchange := .text params.exchange
    transactionType := .text params.transactionType
    orderType := .text params.orderType
    product := .text params.product
    quantity := .number params.quantity (toString params.quantity)
    status := .text report.status
    orderTimestamp := report.orderTimestamp
    exchangeUpdateTimestamp := report.exchangeUpdateTimestamp
    price := echoedPrice float shown params.price
    triggerPrice := echoedPrice float shown params.triggerPrice
    validity := .text "DAY"
    tag := .text params.tag
    strategyId := .absent }

/-! ### Texts that the mapper does not change -/

/-- ASCII text without blanks or control characters. -/
def IsVisibleAscii (text : String) : Prop :=
  ∀ c ∈ text.toList, 33 ≤ c.toNat ∧ c.toNat ≤ 126

instance (text : String) : Decidable (IsVisibleAscii text) :=
  List.decidableBAll _ text.toList

/-- `str.strip` leaves such text alone. -/
def StripsBlanks (py : Python) : Prop :=
  ∀ text, IsVisibleAscii text → py.strip text = text

variable {py : Python}

theorem StripsBlanks.normalized (strips : StripsBlanks py) {text : String}
    (visible : IsVisibleAscii text) (upper : IsUpperAscii text) : normalized py text = text := by
  unfold Broker.normalized
  rw [strips text visible, py.upper_of_isUpperAscii text upper]

theorem upper_side (side : Side) : py.upper (Side.text side) = Side.text side := by
  apply py.upper_of_isUpperAscii
  cases side <;> decide

theorem upper_product (product : ProductType) : py.upper product.text = product.text := by
  apply py.upper_of_isUpperAscii
  cases product <;> decide

theorem mapZerodhaSide_text (strips : StripsBlanks py) (side : Side) :
    mapZerodhaSide py (py.upper (Side.text side)) = .ok side := by
  have upper : IsUpperAscii (Side.text side) := by
    cases side <;> decide
  have visible : IsVisibleAscii (Side.text side) := by
    cases side <;> decide
  unfold mapZerodhaSide
  rw [upper_side, strips.normalized visible upper]
  cases side <;> rfl

theorem mapZerodhaOrderType_text (strips : StripsBlanks py) (orderType : Domain.OrderType) :
    mapZerodhaOrderType py (kiteOrderType py orderType) = .ok orderType := by
  have visible : IsVisibleAscii orderType.text := by
    cases orderType <;> decide
  unfold mapZerodhaOrderType mapByTable
  rw [kiteOrderType_eq, strips.normalized visible (isUpperAscii_orderType orderType)]
  cases orderType <;> rfl

theorem mapZerodhaProduct_text (strips : StripsBlanks py) (product : ProductType) :
    mapZerodhaProduct py (py.upper product.text) = .ok product := by
  have upper : IsUpperAscii product.text := by
    cases product <;> decide
  have visible : IsVisibleAscii product.text := by
    cases product <;> decide
  unfold mapZerodhaProduct mapByTable
  rw [upper_product, strips.normalized visible upper]
  cases product <;> rfl

theorem mapZerodhaExchange_text (strips : StripsBlanks py) (exchange : Exchange) :
    mapZerodhaExchange py exchange.text = .ok exchange := by
  have upper : IsUpperAscii exchange.text := by
    cases exchange <;> decide
  have visible : IsVisibleAscii exchange.text := by
    cases exchange <;> decide
  unfold mapZerodhaExchange mapByTable
  rw [strips.normalized visible upper]
  cases exchange <;> rfl

/-! ### Numbers -/

theorem toInt_number (quantity : ℤ) (shown : String) :
    (RawValue.number quantity shown).toInt py = .ok quantity := by
  change Except.ok (if (quantity : ℚ) < 0 then ⌈(quantity : ℚ)⌉ else ⌊(quantity : ℚ)⌋) = _
  rw [Int.ceil_intCast, Int.floor_intCast, ite_self]

theorem decimalOrNone_echoedPrice {float : ℚ → ℚ} (shown : ℚ → String) {price : Option ℚ}
    (positive : ∀ value ∈ price, 0 < float value) :
    decimalOrNone py ((echoedPrice float shown price).getD (.number 0 "0")) =
      .ok (price.map float) := by
  cases price with
  | none => rfl
  | some value =>
      have nonzero : float value ≠ 0 := ne_of_gt (positive value rfl)
      change Except.ok (if float value = 0 then none else some (float value)) = _
      rw [if_neg nonzero]
      rfl

/-! ### The round trip -/

def tagOf (strategyId : String) : String :=
  String.ofList (strategyId.toList.take 20)

/-- The order has what was sent for the intent: texts in upper case, prices as floats and
the tag in the place of the strategy id. -/
structure EchoesIntent (py : Python) (float : ℚ → ℚ) (intent : OrderIntent)
    (order : InternalOrder) : Prop where
  symbol : order.symbol = py.upper intent.symbol
  exchange : order.exchange.text = py.upper intent.exchange
  side : order.side = intent.side
  quantity : order.quantity = intent.quantity
  orderType : order.orderType = intent.orderType
  product : order.product = intent.product
  price : order.price = intent.price.map float
  triggerPrice : order.triggerPrice = intent.triggerPrice.map float
  strategyId : order.strategyId = tagOf intent.strategyId

/-- What an internal order can hold of an intent. -/
structure Representable (py : Python) (float : ℚ → ℚ) (intent : OrderIntent) : Prop where
  symbol : py.isBlank (py.upper intent.symbol) = false
  exchange : py.upper intent.exchange = "NSE" ∨ py.upper intent.exchange = "BSE"
  price : ∀ value ∈ intent.price, 0 < float value
  triggerPrice : ∀ value ∈ intent.triggerPrice, 0 < float value
  tag : py.isBlank (tagOf intent.strategyId) = false

theorem not_blank_of_make {draft : OrderDraft} {order : InternalOrder}
    (made : InternalOrder.make py draft = .ok order) :
    py.isBlank draft.strategyId = false ∧ py.isBlank draft.symbol = false := by
  unfold InternalOrder.make at made
  split_ifs at made with strategy symbol
  exact ⟨Bool.eq_false_of_not_eq_true strategy, Bool.eq_false_of_not_eq_true symbol⟩

theorem not_blank_of_mapZerodhaOrder {id : String} {raw : RawOrder} {order : InternalOrder}
    (mapped : mapZerodhaOrder py id raw = .ok order) :
    py.isBlank order.strategyId = false ∧ py.isBlank order.symbol = false := by
  unfold mapZerodhaOrder at mapped
  iterate 24 obtain ⟨_, _, mapped⟩ := exists_of_bind_eq_ok mapped
  have made := eq_of_wrapped mapped
  have checked := not_blank_of_make made
  rw [← InternalOrder.toOrderDraft_of_make made] at checked
  exact checked

theorem representable_of_echoes {float : ℚ → ℚ} {id : String} {raw : RawOrder}
    {intent : OrderIntent} {order : InternalOrder}
    (mapped : mapZerodhaOrder py id raw = .ok order)
    (echoes : EchoesIntent py float intent order) : Representable py float intent := by
  obtain ⟨strategyId, symbol⟩ := not_blank_of_mapZerodhaOrder mapped
  have price := order.shape.price_pos
  have triggerPrice := order.shape.trigger_pos
  rw [echoes.strategyId] at strategyId
  rw [echoes.symbol] at symbol
  rw [echoes.price] at price
  rw [echoes.triggerPrice] at triggerPrice
  exact
    { symbol := symbol
      exchange := by
        rw [← echoes.exchange]
        cases order.exchange with
        | nse => exact Or.inl rfl
        | bse => exact Or.inr rfl
      price := fun value given =>
        price (float value) (Option.map_eq_some_iff.mpr ⟨value, given, rfl⟩)
      triggerPrice := fun value given =>
        triggerPrice (float value) (Option.map_eq_some_iff.mpr ⟨value, given, rfl⟩)
      tag := strategyId }

theorem orderShape_of_representable {float : ℚ → ℚ} {intent : OrderIntent}
    (representable : Representable py float intent) :
    OrderShape intent.quantity intent.orderType (intent.price.map float)
      (intent.triggerPrice.map float) := by
  refine
    { quantity_pos := intent.shape.quantity_pos
      price_pos := ?_
      trigger_pos := ?_
      limit_priced := fun limit unpriced =>
        intent.shape.limit_priced limit (Option.map_eq_none_iff.mp unpriced)
      stop_triggered := fun stop unset =>
        intent.shape.stop_triggered stop (Option.map_eq_none_iff.mp unset) }
  · intro value given
    obtain ⟨sent, present, rfl⟩ := Option.map_eq_some_iff.mp given
    exact representable.price sent present
  · intro value given
    obtain ⟨sent, present, rfl⟩ := Option.map_eq_some_iff.mp given
    exact representable.triggerPrice sent present

theorem ne_empty_of_not_blank (strips : StripsBlanks py) {text : String}
    (filled : py.isBlank text = false) : text ≠ "" := by
  rintro rfl
  have empty : py.strip "" = "" := strips "" (fun c member => absurd member List.not_mem_nil)
  unfold Python.isBlank at filled
  rw [empty] at filled
  cases filled

theorem require_text {key text : String} (filled : text ≠ "") :
    require key (.text text) = .ok (.text text) := by
  unfold require
  rw [if_neg]
  rintro (absent | null | empty)
  · cases absent
  · cases null
  · exact filled (RawValue.text.inj empty)

theorem require_number (key : String) (value : ℚ) (shown : String) :
    require key (.number value shown) = .ok (.number value shown) := by
  unfold require
  rw [if_neg]
  rintro (absent | null | empty)
  · cases absent
  · cases null
  · cases empty

theorem asText_status (status : String) :
    ∃ text, ((RawValue.text status).or (.text "UNKNOWN")).asText = .ok text := by
  unfold RawValue.or
  split
  · exact ⟨status, rfl⟩
  · exact ⟨"UNKNOWN", rfl⟩

theorem textFieldOrNone_orderId (brokerOrderId : String) :
    ∃ stored, ((RawValue.text brokerOrderId).or .null).textFieldOrNone "broker_order_id" =
      .ok stored := by
  unfold RawValue.or
  split
  · exact ⟨some brokerOrderId, rfl⟩
  · exact ⟨none, rfl⟩

theorem or_text {text : String} (filled : text ≠ "") (other : RawValue) :
    (RawValue.text text).or other = .text text :=
  if_pos (decide_eq_true filled)

theorem ok_bind {ε α β : Type} (value : α) (next : α → Except ε β) :
    (Except.ok value >>= next) = next value :=
  rfl

theorem wrapped_ok {α : Type} (value : α) : wrapped (.ok value) = .ok value :=
  rfl

theorem asText_text (text : String) : (RawValue.text text).asText = .ok text :=
  rfl

theorem textField_text (field text : String) : (RawValue.text text).textField field = .ok text :=
  rfl

/-- What the mapper reads of a report. -/
structure ReportReading where
  storedId : Option String
  statusText : String
  createdAt : Datetime
  reportedAt : Datetime

/-- The arguments of `InternalOrder` for an intent, before their checks. -/
def echoedDraft (py : Python) (float : ℚ → ℚ) (intent : OrderIntent) (exchange : Exchange)
    (reading : ReportReading) (internalOrderId : String) (row : RawOrder) : OrderDraft :=
  { internalOrderId := internalOrderId
    brokerOrderId := reading.storedId
    strategyId := tagOf intent.strategyId
    symbol := py.upper intent.symbol
    exchange := exchange
    side := intent.side
    quantity := intent.quantity
    orderType := intent.orderType
    product := intent.product
    price := intent.price.map float
    triggerPrice := intent.triggerPrice.map float
    timeInForce := (zerodhaValidityMap.lookup (normalized py "DAY")).getD .day
    status := mapZerodhaOrderStatus py reading.statusText
    riskDecisionId := none
    createdAt := reading.createdAt
    updatedAt :=
      if reading.reportedAt < reading.createdAt then reading.createdAt else reading.reportedAt
    rawBrokerResponse := some row }

/-- A representable intent passes the checks of `InternalOrder`. -/
theorem make_echoedDraft {float : ℚ → ℚ} {intent : OrderIntent}
    (representable : Representable py float intent) (exchange : Exchange)
    (reading : ReportReading) (internalOrderId : String) (row : RawOrder) :
    InternalOrder.make py (echoedDraft py float intent exchange reading internalOrderId row) =
      .ok { echoedDraft py float intent exchange reading internalOrderId row with
        shape := orderShape_of_representable representable } := by
  have ordered : ¬ (if reading.reportedAt < reading.createdAt then reading.createdAt
      else reading.reportedAt) < reading.createdAt := by
    split_ifs with early
    · exact lt_irrefl reading.createdAt
    · exact early
  unfold InternalOrder.make
  rw [if_neg (Bool.not_eq_true _ ▸ representable.tag),
    if_neg (Bool.not_eq_true _ ▸ representable.symbol)]
  exact (if_neg ordered).trans (dif_pos (orderShape_of_representable representable))

theorem mapZerodhaOrder_row (strips : StripsBlanks py) {float : ℚ → ℚ} (shown : ℚ → String)
    {report : OrderReport} (readable : report.Readable py)
    (internalOrderId brokerOrderId : String) {intent : OrderIntent}
    (representable : Representable py float intent) {exchange : Exchange}
    (exchangeText : py.upper intent.exchange = exchange.text) :
    ∃ reading, mapZerodhaOrder py internalOrderId
        (orderBookRow float shown report brokerOrderId (kiteParams py intent)) =
      wrapped (InternalOrder.make py (echoedDraft py float intent exchange reading
        internalOrderId
          (orderBookRow float shown report brokerOrderId (kiteParams py intent)))) := by
  have symbolFilled := ne_empty_of_not_blank strips representable.symbol
  have tagFilled := ne_empty_of_not_blank strips representable.tag
  have exchangeMapped : mapZerodhaExchange py (py.upper intent.exchange) = .ok exchange := by
    rw [exchangeText]
    exact mapZerodhaExchange_text strips exchange
  have exchangeFilled : py.upper intent.exchange ≠ "" := by
    rw [exchangeText]
    cases exchange <;> decide
  have sideFilled : py.upper (Side.text intent.side) ≠ "" := by
    rw [upper_side]
    cases intent.side <;> decide
  have orderTypeFilled : kiteOrderType py intent.orderType ≠ "" := by
    rw [kiteOrderType_eq]
    cases intent.orderType <;> decide
  have productFilled : py.upper intent.product.text ≠ "" := by
    rw [upper_product]
    cases intent.product <;> decide
  have validityFilled : ("DAY" : String) ≠ "" := by
    decide
  obtain ⟨statusText, status⟩ := asText_status report.status
  obtain ⟨storedId, orderId⟩ := textFieldOrNone_orderId brokerOrderId
  obtain ⟨createdAt, created⟩ := readable.created
  obtain ⟨reportedAt, updated⟩ := readable.updated
  refine ⟨⟨storedId, statusText, createdAt, reportedAt⟩, ?_⟩
  unfold mapZerodhaOrder orderBookRow kiteParams
  unfold tagOf at tagFilled
  simp only [ok_bind, wrapped_ok, asText_text, textField_text, require_text symbolFilled,
    require_text exchangeFilled, exchangeMapped, require_text sideFilled,
    mapZerodhaSide_text strips, require_text orderTypeFilled, mapZerodhaOrderType_text strips,
    require_text productFilled, mapZerodhaProduct_text strips, require_number, toInt_number,
    status, created, updated, decimalOrNone_echoedPrice shown representable.price,
    decimalOrNone_echoedPrice shown representable.triggerPrice, or_text validityFilled, orderId,
    or_text tagFilled]
  rfl

theorem mapZerodhaOrder_of_representable (strips : StripsBlanks py) {float : ℚ → ℚ}
    (shown : ℚ → String) {report : OrderReport} (readable : report.Readable py)
    (internalOrderId brokerOrderId : String) {intent : OrderIntent}
    (representable : Representable py float intent) :
    ∃ order, mapZerodhaOrder py internalOrderId
        (orderBookRow float shown report brokerOrderId (kiteParams py intent)) = .ok order ∧
      EchoesIntent py float intent order := by
  obtain ⟨exchange, exchangeText⟩ : ∃ exchange : Exchange,
      py.upper intent.exchange = exchange.text :=
    representable.exchange.elim (fun nse => ⟨.nse, nse⟩) (fun bse => ⟨.bse, bse⟩)
  obtain ⟨reading, mapped⟩ := mapZerodhaOrder_row strips shown readable internalOrderId
    brokerOrderId representable exchangeText
  rw [mapped, make_echoedDraft representable]
  refine ⟨_, rfl, ?_⟩
  exact
    { symbol := rfl
      exchange := exchangeText.symm
      side := rfl
      quantity := rfl
      orderType := rfl
      product := rfl
      price := rfl
      triggerPrice := rfl
      strategyId := rfl }

theorem params_of_accepted {kite : KiteClient} {broker after : ZerodhaBroker}
    {intent : OrderIntent} {config : LivePilotConfig} {approval : ApprovalDecision}
    {risk : Option RiskDecision} {safetyGuard : Option LiveExecutionSafetyGuard}
    {brokerOrderId : String} {params : KiteParams}
    (accepted : broker.placeOrder py kite intent config approval risk safetyGuard =
      (.ok brokerOrderId, after))
    (sent : after.placed = broker.placed ++ [params]) : params = kiteParams py intent := by
  unfold ZerodhaBroker.placeOrder at accepted
  split_ifs at accepted
  · split at accepted
    · cases accepted
    · dsimp only at accepted
      split at accepted
      · cases accepted
      · obtain ⟨_, rfl⟩ := Prod.mk.inj accepted
        exact (List.singleton_inj.mp (List.append_cancel_left sent)).symm
  · cases accepted

/-- The row of an accepted order maps to an order with what was sent for the intent, exactly
when an internal order can hold that. -/
theorem placed_roundTrip_iff (strips : StripsBlanks py) (float : ℚ → ℚ) (shown : ℚ → String)
    {kite : KiteClient} {broker after : ZerodhaBroker} {intent : OrderIntent}
    {config : LivePilotConfig} {approval : ApprovalDecision} {risk : Option RiskDecision}
    {safetyGuard : Option LiveExecutionSafetyGuard} {brokerOrderId : String} {params : KiteParams}
    (accepted : broker.placeOrder py kite intent config approval risk safetyGuard =
      (.ok brokerOrderId, after))
    (sent : after.placed = broker.placed ++ [params]) {report : OrderReport}
    (readable : report.Readable py) (internalOrderId : String) :
    (∃ order, mapZerodhaOrder py internalOrderId
        (orderBookRow float shown report brokerOrderId params) = .ok order ∧
      EchoesIntent py float intent order) ↔ Representable py float intent := by
  rw [params_of_accepted accepted sent]
  constructor
  · rintro ⟨order, mapped, echoes⟩
    exact representable_of_echoes mapped echoes
  · exact mapZerodhaOrder_of_representable strips shown readable internalOrderId brokerOrderId

/-! ### A strategy id that is too long for a tag -/

def timeInForceText : TimeInForce → String
  | .day => "DAY"
  | .ioc => "IOC"

/-- The order has every field of the intent as it is. -/
structure RestoresIntent (intent : OrderIntent) (order : InternalOrder) : Prop where
  symbol : order.symbol = intent.symbol
  exchange : order.exchange.text = intent.exchange
  side : order.side = intent.side
  quantity : order.quantity = intent.quantity
  orderType : order.orderType = intent.orderType
  product : order.product = intent.product
  price : order.price = intent.price
  triggerPrice : order.triggerPrice = intent.triggerPrice
  timeInForce : timeInForceText order.timeInForce = intent.validity
  strategyId : order.strategyId = intent.strategyId

/-- The default id of the first hour momentum strategy has 22 characters. -/
def momentumIntent : OrderIntent :=
  { sampleIntent with strategyId := "first_hour_momentum_v1" }

def approvedDecision : ApprovalDecision :=
  { approvalId := "approval_1"
    status := .approved
    decidedAt := 0
    decidedBy := some "operator_cli"
    reason := none }

def openReport : OrderReport :=
  { status := "OPEN"
    orderTimestamp := .moment 0
    exchangeUpdateTimestamp := .null }

theorem stripsBlanks_ascii : StripsBlanks Python.ascii := by
  have kept : ∀ letters : List Char, (∀ c ∈ letters, 33 ≤ c.toNat ∧ c.toNat ≤ 126) →
      letters.dropWhile Char.isWhitespace = letters := by
    intro letters visible
    apply List.dropWhile_eq_self_iff.mpr
    intro nonempty blank
    have first := (visible _ (List.getElem_mem nonempty)).1
    unfold Char.isWhitespace at blank
    simp only [Bool.or_eq_true, decide_eq_true_eq] at blank
    rcases blank with ((same | same) | same) | same
    all_goals
      rw [same] at first
      exact absurd first (by decide)
  intro text visible
  change String.ofList _ = text
  rw [kept text.toList visible, kept text.toList.reverse
    (fun c member => visible c (List.mem_reverse.mp member)), List.reverse_reverse,
    String.ofList_toList]

theorem openReport_readable : openReport.Readable Python.ascii :=
  { created := ⟨0, rfl⟩
    updated := ⟨0, rfl⟩ }

theorem momentumIntent_accepted :
    connectedBroker.placeOrder Python.ascii acceptingKite momentumIntent pilotConfig
        approvedDecision none (some liveGuard) =
      (.ok "B1", { connectedBroker with placed := [kiteParams Python.ascii momentumIntent] }) :=
  rfl

theorem momentumIntent_roundTrip_iff :
    (∃ order, mapZerodhaOrder Python.ascii "order_1"
        (orderBookRow id (fun _ => "") openReport "B1"
          (kiteParams Python.ascii momentumIntent)) = .ok order ∧
      EchoesIntent Python.ascii id momentumIntent order) ↔
      Representable Python.ascii id momentumIntent :=
  placed_roundTrip_iff stripsBlanks_ascii id (fun _ => "") momentumIntent_accepted rfl
    openReport_readable "order_1"

/-- Accepted under the configuration, but its row does not map to an order with its fields. -/
def Lost (config : LivePilotConfig) (intent : OrderIntent) : Prop :=
  (connectedBroker.placeOrder Python.ascii acceptingKite intent config approvedDecision none
      (some liveGuard)).1 = .ok "B1" ∧
    ¬ ∃ order, mapZerodhaOrder Python.ascii "order_1"
        (orderBookRow id (fun _ => "") openReport "B1" (kiteParams Python.ascii intent)) =
          .ok order ∧
      RestoresIntent intent order

/-- A symbol in lower case passes the guard. -/
def lowerCaseIntent : OrderIntent :=
  { sampleIntent with symbol := "infy" }

def futuresIntent : OrderIntent :=
  { sampleIntent with exchange := "NFO" }

/-- A market order with the price zero. -/
def zeroPriceIntent : OrderIntent :=
  { sampleIntent with
    price := some 0
    shape :=
      { quantity_pos := sampleIntent.shape.quantity_pos
        limit_priced := nofun
        stop_triggered := sampleIntent.shape.stop_triggered } }

def unnamedIntent : OrderIntent :=
  { sampleIntent with strategyId := "" }

theorem representable_of_unpriced {intent : OrderIntent} (price : intent.price = none)
    (triggerPrice : intent.triggerPrice = none)
    (symbol : Python.ascii.isBlank (Python.ascii.upper intent.symbol) = false)
    (exchange : Python.ascii.upper intent.exchange = "NSE")
    (tag : Python.ascii.isBlank (tagOf intent.strategyId) = false) :
    Representable Python.ascii id intent :=
  { symbol := symbol
    exchange := Or.inl exchange
    price := by
      rw [price]
      exact nofun
    triggerPrice := by
      rw [triggerPrice]
      exact nofun
    tag := tag }

theorem not_restores_of_echoes {intent : OrderIntent}
    (representable : Representable Python.ascii id intent)
    (changed : Python.ascii.upper intent.symbol ≠ intent.symbol ∨
      tagOf intent.strategyId ≠ intent.strategyId) :
    ¬ ∃ order, mapZerodhaOrder Python.ascii "order_1"
        (orderBookRow id (fun _ => "") openReport "B1" (kiteParams Python.ascii intent)) =
          .ok order ∧
      RestoresIntent intent order := by
  rintro ⟨order, mapped, restores⟩
  obtain ⟨echoed, mappedToo, echoes⟩ := mapZerodhaOrder_of_representable stripsBlanks_ascii
    (fun _ => "") openReport_readable "order_1" "B1" representable
  rw [mappedToo] at mapped
  cases mapped
  rcases changed with symbol | strategyId
  · exact symbol (echoes.symbol.symm.trans restores.symbol)
  · exact strategyId (echoes.strategyId.symm.trans restores.strategyId)

/-- The id is cut to twenty characters and texts go to upper case; other exchanges, the price
zero and an empty id do not come back. -/
theorem sampleIntents_lost :
    Lost pilotConfig momentumIntent ∧ Lost pilotConfig lowerCaseIntent ∧
      Lost { pilotConfig with allowedExchange := "NFO" } futuresIntent ∧
      Lost pilotConfig zeroPriceIntent ∧ Lost pilotConfig unnamedIntent := by
  refine ⟨⟨rfl, ?_⟩, ⟨rfl, ?_⟩, ⟨rfl, ?_⟩, ⟨rfl, ?_⟩, ⟨rfl, ?_⟩⟩
  · exact not_restores_of_echoes (representable_of_unpriced rfl rfl (by decide) (by decide)
      (by decide)) (Or.inr (by decide))
  · exact not_restores_of_echoes (representable_of_unpriced rfl rfl (by decide) (by decide)
      (by decide)) (Or.inl (by decide))
  · rintro ⟨order, mapped, restores⟩
    have exchange := restores.exchange
    revert exchange
    cases order.exchange <;> decide
  · rintro ⟨order, mapped, restores⟩
    exact lt_irrefl 0 (order.shape.price_pos 0 restores.price)
  · rintro ⟨order, mapped, restores⟩
    have named := (not_blank_of_mapZerodhaOrder mapped).1
    rw [restores.strategyId] at named
    revert named
    decide

end TradingEngine.Broker
