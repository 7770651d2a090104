/-
The simulated broker of a backtest, with its cost and slippage models.

A market order fills at the close of the current bar and a limit order at its limit
when the bar touches it, both after slippage.  What the broker raises is swallowed by
the engine, so an order that fails leaves no fill.
-/

import TradingEngine.Backtest.PortfolioIdentity
import TradingEngine.General.DecimalRounding

namespace TradingEngine.Backtest

open Domain
open DecimalRounding (quantize quantize_nonneg)
open Signals (Side)

/-! ### Costs -/

structure CostModel where
  brokeragePerOrder : ℚ := 20
  brokerageCap : ℚ := 20
  sttRate : ℚ := 0.00025
  exchangeTxnRate : ℚ := 0.0000325
  sebiRate : ℚ := 0.000001
  stampDutyRate : ℚ := 0.00003
  gstRate : ℚ := 0.18
  brokeragePerOrder_nonneg : 0 ≤ brokeragePerOrder := by norm_num
  brokerageCap_nonneg : 0 ≤ brokerageCap := by norm_num
  sttRate_nonneg : 0 ≤ sttRate := by norm_num
  exchangeTxnRate_nonneg : 0 ≤ exchangeTxnRate := by norm_num
  sebiRate_nonneg : 0 ≤ sebiRate := by norm_num
  stampDutyRate_nonneg : 0 ≤ stampDutyRate := by norm_num
  gstRate_nonneg : 0 ≤ gstRate := by norm_num

namespace CostModel

variable (costModel : CostModel)

def brokerage : ℚ :=
  min costModel.brokeragePerOrder costModel.brokerageCap

def stt (side : Side) (turnover : ℚ) : ℚ :=
  match side with
  | .sell => costModel.sttRate * turnover
  | .buy => 0

def stamp (side : Side) (turnover : ℚ) : ℚ :=
  match side with
  | .buy => costModel.stampDutyRate * turnover
  | .sell => 0

def totalCharge (side : Side) (turnover : ℚ) : ℚ :=
  let exchangeTxn := costModel.exchangeTxnRate * turnover
  let sebi := costModel.sebiRate * turnover
  let gst := costModel.gstRate * (costModel.brokerage + exchangeTxn + sebi)
  costModel.brokerage + costModel.stt side turnover + exchangeTxn + sebi +
    costModel.stamp side turnover + gst

def calculateFees (decimalText : ℚ → String) (side : Side) (quantity : ℤ) (price : ℚ) :
    Except EngineError ℚ :=
  if quantity ≤ 0 then
    .error (.valueError ("quantity must be positive, got " ++ toString quantity))
  else if price ≤ 0 then
    .error (.valueError ("price must be positive, got " ++ decimalText price))
  else .ok (quantize 2 (costModel.totalCharge side (quantity * price)))

theorem totalCharge_nonneg (side : Side) {turnover : ℚ} (nonneg : 0 ≤ turnover) :
    0 ≤ costModel.totalCharge side turnover := by
  have brokerage : 0 ≤ costModel.brokerage :=
    le_min costModel.brokeragePerOrder_nonneg costModel.brokerageCap_nonneg
  have stt : 0 ≤ costModel.stt side turnover := by
    cases side
    · exact le_refl 0
    · exact mul_nonneg costModel.sttRate_nonneg nonneg
  have stamp : 0 ≤ costModel.stamp side turnover := by
    cases side
    · exact mul_nonneg costModel.stampDutyRate_nonneg nonneg
    · exact le_refl 0
  have exchangeTxn := mul_nonneg costModel.exchangeTxnRate_nonneg nonneg
  have sebi := mul_nonneg costModel.sebiRate_nonneg nonneg
  have gst := mul_nonneg costModel.gstRate_nonneg
    (add_nonneg (add_nonneg brokerage exchangeTxn) sebi)
  unfold totalCharge
  dsimp only
  linarith

theorem calculateFees_pos {decimalText : ℚ → String} {side : Side} {quantity : ℤ} {price : ℚ}
    (quantity_pos : 0 < quantity) (price_pos : 0 < price) :
    costModel.calculateFees decimalText side quantity price =
      .ok (quantize 2 (costModel.totalCharge side (quantity * price))) := by
  unfold calculateFees
  rw [if_neg (not_le.mpr quantity_pos), if_neg (not_le.mpr price_pos)]

theorem fees_nonneg {side : Side} {quantity : ℤ} {price : ℚ} (quantity_pos : 0 < quantity)
    (price_pos : 0 < price) : 0 ≤ quantize 2 (costModel.totalCharge side (quantity * price)) :=
  quantize_nonneg 2 (costModel.totalCharge_nonneg side
    (mul_nonneg (Int.cast_nonneg (le_of_lt quantity_pos)) (le_of_lt price_pos)))

end CostModel

/-! ### Slippage -/

structure SlippageModel where
  bps : ℚ := 2
  bps_nonneg : 0 ≤ bps := by norm_num

namespace SlippageModel

variable (slippageModel : SlippageModel)

def slipped (side : Side) (price : ℚ) : ℚ :=
  let adjustment := price * (slippageModel.bps / 10000)
  match side with
  | .buy => quantize 2 (price + adjustment)
  | .sell => quantize 2 (price - adjustment)

def apply (decimalText : ℚ → String) (side : Side) (price : ℚ) : Except EngineError ℚ :=
  if price ≤ 0 then
    .error (.valueError ("price must be positive, got " ++ decimalText price))
  else .ok (slippageModel.slipped side price)

end SlippageModel

/-! ### Fills -/

theorem toOption_eq_some_iff {ε α : Type} {result : Except ε α} {value : α} :
    result.toOption = some value ↔ result = .ok value := by
  constructor
  · intro present
    cases result with
    | error raised => cases present
    | ok answer => exact congrArg Except.ok (Option.some.inj present)
  · rintro rfl
    rfl

/-- What an execution raises. -/
inductive ExecutionError where
  | unsupportedOrderType (message : String)
  | insufficientPosition (cause : InsufficientPosition)
  | engine (error : EngineError)
deriving DecidableEq

/-- `TradeFill(...)`; the internal order identifier that the broker generates is not blank. -/
def makeFill (py : Python) (fillId symbol : String) (exchange : Exchange) (side : Side)
    (quantity : ℤ) (price fees : ℚ) (timestamp : Datetime) : Except EngineError TradeFill :=
  if py.isBlank symbol then .error (.raised (.validationError "symbol"))
  else if quantity_pos : 0 < quantity then
    if price_pos : 0 < price then
      if fees_nonneg : 0 ≤ fees then
        .ok
          { fillId := fillId
            symbol := symbol
            exchange := exchange
            side := side
            quantity := quantity.toNat
            price := price
            fees := fees
            timestamp := timestamp
            quantity_pos := Int.lt_toNat.mpr quantity_pos
            price_pos := price_pos
            fees_nonneg := fees_nonneg }
      else .error (.raised (.validationError "fees"))
    else .error (.raised (.validationError "price"))
  else .error (.raised (.validationError "quantity"))

def referencePrice (intent : OrderIntent) (bar : Domain.Bar) : Option ℚ :=
  match intent.orderType, intent.price, intent.side with
  | .market, _, _ => some bar.close
  | .limit, some limitPrice, .buy => if bar.low ≤ limitPrice then some limitPrice else none
  | .limit, some limitPrice, .sell => if limitPrice ≤ bar.high then some limitPrice else none
  | _, _, _ => none

structure SimulatedBroker where
  costModel : CostModel
  slippageModel : SlippageModel
  py : Python
  /-- `str` of a `Decimal`. -/
  decimalText : ℚ → String

namespace SimulatedBroker

variable (broker : SimulatedBroker)

/-- The first part of `execute_order_intent`, up to the fill price. -/
def fillPrice (intent : OrderIntent) (bar : Domain.Bar) : Except ExecutionError (Option ℚ) :=
  let apply price :=
    match broker.slippageModel.apply broker.decimalText intent.side price with
    | .error raised => .error (.engine raised)
    | .ok fillPrice => .ok (some fillPrice)
  match intent.orderType with
  | .sl | .slM =>
      .error (.unsupportedOrderType ("Order type " ++ broker.py.repr intent.orderType.text ++
        " is not supported in backtest v1. Use MARKET or LIMIT orders."))
  | .market => apply bar.close
  | .limit =>
      match intent.price with
      | none => .error (.engine (.valueError "LIMIT order has no price set on OrderIntent"))
      | some limitPrice =>
          match intent.side with
          | .buy => if bar.low ≤ limitPrice then apply limitPrice else .ok none
          | .sell => if limitPrice ≤ bar.high then apply limitPrice else .ok none

def fillAt (fillId : String) (intent : OrderIntent) (bar : Domain.Bar) (price : ℚ) :
    Except EngineError TradeFill :=
  match broker.costModel.calculateFees broker.decimalText intent.side intent.quantity price with
  | .error raised => .error raised
  | .ok fees =>
      match Exchange.ofText intent.exchange with
      | none =>
          .error (.valueError (broker.py.repr intent.exchange ++ " is not a valid Exchange"))
      | some exchange =>
          makeFill broker.py fillId intent.symbol exchange intent.side intent.quantity price fees
            bar.timestamp

def executeOrderIntent (fillId : String) (intent : OrderIntent) (bar : Domain.Bar)
    (portfolio : BacktestPortfolio) :
    Except ExecutionError (Option TradeFill) × BacktestPortfolio :=
  match broker.fillPrice intent bar with
  | .error raised => (.error raised, portfolio)
  | .ok none => (.ok none, portfolio)
  | .ok (some price) =>
      match broker.fillAt fillId intent bar price with
      | .error raised => (.error (.engine raised), portfolio)
      | .ok fill =>
          match portfolio.applyFill fill with
          | (.error cause, portfolio) => (.error (.insufficientPosition cause), portfolio)
          | (.ok (), portfolio) => (.ok (some fill), portfolio)

end SimulatedBroker

/-- The `except Exception` of the engines: an order that fails has no fill. -/
def caught (result : Except ExecutionError (Option TradeFill) × BacktestPortfolio) :
    Option TradeFill × BacktestPortfolio :=
  match result with
  | (.ok fill, portfolio) => (fill, portfolio)
  | (.error _raised, portfolio) => (none, portfolio)

/-! ### What an execution does -/

namespace SimulatedBroker

variable (broker : SimulatedBroker)

/-- The fill that an order is worth, before the portfolio has its say. -/
def quote (fillId : String) (intent : OrderIntent) (bar : Domain.Bar) : Option TradeFill :=
  (referencePrice intent bar).bind fun reference =>
    (broker.slippageModel.apply broker.decimalText intent.side reference).toOption.bind
      fun price => (broker.fillAt fillId intent bar price).toOption

end SimulatedBroker

/-- A quoted fill is booked unless it sells more than is held long. -/
def BacktestPortfolio.settle (portfolio : BacktestPortfolio) :
    Option TradeFill → Option TradeFill × BacktestPortfolio
  | none => (none, portfolio)
  | some fill =>
      if Oversells (portfolio.positionFor fill) fill then (none, portfolio)
      else (some fill, portfolio.afterFill fill)

theorem caught_applyFill (portfolio : BacktestPortfolio) (fill : TradeFill) :
    caught (match portfolio.applyFill fill with
      | (.error cause, portfolio) => (.error (.insufficientPosition cause), portfolio)
      | (.ok (), portfolio) => (.ok (some fill), portfolio)) = portfolio.settle (some fill) := by
  unfold BacktestPortfolio.settle
  dsimp only
  by_cases oversells : Oversells (portfolio.positionFor fill) fill
  · rw [applyFill_of_oversells oversells, if_pos oversells]
    rfl
  · rw [if_neg oversells, BacktestPortfolio.afterFill, applyFill_of_accepted oversells]
    rfl

namespace SimulatedBroker

variable {broker : SimulatedBroker} {fillId : String} {intent : OrderIntent} {bar : Domain.Bar}

theorem fillPrice_toOption (broker : SimulatedBroker) (intent : OrderIntent) (bar : Domain.Bar) :
    (broker.fillPrice intent bar).toOption.join =
    (referencePrice intent bar).bind fun reference =>
      (broker.slippageModel.apply broker.decimalText intent.side reference).toOption := by
  unfold fillPrice referencePrice
  have applied : ∀ reference, (match
      broker.slippageModel.apply broker.decimalText intent.side reference with
      | .error raised => Except.error (ExecutionError.engine raised)
      | .ok fillPrice => .ok (some fillPrice)).toOption.join =
      (broker.slippageModel.apply broker.decimalText intent.side reference).toOption := by
    intro reference
    cases broker.slippageModel.apply broker.decimalText intent.side reference <;> rfl
  cases intent.orderType with
  | sl => rfl
  | slM => rfl
  | market => exact applied bar.close
  | limit =>
      cases intent.price with
      | none => rfl
      | some limitPrice =>
          cases side : intent.side with
          | buy =>
              rw [side] at applied
              dsimp only
              split_ifs
              · exact applied limitPrice
              · rfl
          | sell =>
              rw [side] at applied
              dsimp only
              split_ifs
              · exact applied limitPrice
              · rfl

theorem caught_executeOrderIntent (portfolio : BacktestPortfolio) :
    caught (broker.executeOrderIntent fillId intent bar portfolio) =
      portfolio.settle (broker.quote fillId intent bar) := by
  have priced := fillPrice_toOption broker intent bar
  unfold executeOrderIntent quote
  rw [← Option.bind_assoc, ← priced]
  cases broker.fillPrice intent bar with
  | error raised => rfl
  | ok answer =>
      cases answer with
      | none => rfl
      | some price =>
          dsimp only [Except.toOption, Option.join_some, Option.bind_some]
          cases broker.fillAt fillId intent bar price with
          | error raised => rfl
          | ok fill => exact caught_applyFill portfolio fill

/-! ### What a quoted fill says -/

/-- What a quoted fill takes from its order and its bar. -/
structure Quoted (broker : SimulatedBroker) (fillId : String) (intent : OrderIntent)
    (bar : Domain.Bar) (fill : TradeFill) : Prop where
  fillId : fill.fillId = fillId
  symbol : fill.symbol = intent.symbol
  side : fill.side = intent.side
  quantity : (fill.quantity : ℤ) = intent.quantity
  timestamp : fill.timestamp = bar.timestamp
  exchange : Exchange.ofText intent.exchange = some fill.exchange
  named : broker.py.isBlank intent.symbol = false
  reference : ∃ price, referencePrice intent bar = some price ∧ 0 < price ∧
    fill.price = broker.slippageModel.slipped intent.side price

theorem apply_eq_ok {slippageModel : SlippageModel} {decimalText : ℚ → String} {side : Side}
    {price slipped : ℚ} (applied : slippageModel.apply decimalText side price = .ok slipped) :
    0 < price ∧ slipped = slippageModel.slipped side price := by
  unfold SlippageModel.apply at applied
  split_ifs at applied with nonpos
  exact ⟨not_le.mp nonpos, (Except.ok.inj applied).symm⟩

theorem makeFill_eq_ok {py : Python} {symbol : String} {exchange : Exchange} {side : Side}
    {quantity : ℤ} {price fees : ℚ} {timestamp : Datetime} {fill : TradeFill}
    (made : makeFill py fillId symbol exchange side quantity price fees timestamp = .ok fill) :
    fill.fillId = fillId ∧ fill.symbol = symbol ∧ fill.exchange = exchange ∧ fill.side = side ∧
      (fill.quantity : ℤ) = quantity ∧ fill.price = price ∧ fill.timestamp = timestamp ∧
      py.isBlank symbol = false := by
  unfold makeFill at made
  split_ifs at made with blank quantity_pos
  cases made
  exact ⟨rfl, rfl, rfl, rfl, Int.toNat_of_nonneg (le_of_lt quantity_pos), rfl, rfl,
    Bool.eq_false_iff.mpr blank⟩

theorem quoted {fill : TradeFill} (quoted : broker.quote fillId intent bar = some fill) :
    broker.Quoted fillId intent bar fill := by
  obtain ⟨reference, found, rest⟩ := Option.bind_eq_some_iff.mp quoted
  obtain ⟨price, slipped, charged⟩ := Option.bind_eq_some_iff.mp rest
  obtain ⟨positive, price_eq⟩ := apply_eq_ok (toOption_eq_some_iff.mp slipped)
  have made := toOption_eq_some_iff.mp charged
  unfold fillAt at made
  cases fees : broker.costModel.calculateFees broker.decimalText intent.side intent.quantity
      price with
  | error raised =>
      rw [fees] at made
      cases made
  | ok fees' =>
      cases known : Exchange.ofText intent.exchange with
      | none =>
          rw [fees, known] at made
          cases made
      | some exchange =>
          rw [fees, known] at made
          obtain ⟨ids, symbol, market, side, quantity, paid, timestamp, named⟩ :=
            makeFill_eq_ok made
          exact
            { fillId := ids
              symbol := symbol
              side := side
              quantity := quantity
              timestamp := timestamp
              exchange := by rw [market, known]
              named := named
              reference := ⟨reference, found, positive, paid.trans price_eq⟩ }

end SimulatedBroker

end TradingEngine.Backtest
