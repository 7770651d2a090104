/-
The execution broker of paper trading.

It is written apart from the simulated broker and fills the same orders at the same
prices; only the text of an unsupported order type differs.
-/

import TradingEngine.Backtest.SimulatedBroker

namespace TradingEngine.Paper

open Backtest Domain

structure PaperExecutionBroker where
  costModel : CostModel
  slippageModel : SlippageModel
  py : Python
  /-- `str` of a `Decimal`. -/
  decimalText : ℚ → String

namespace PaperExecutionBroker

variable (broker : PaperExecutionBroker)

def slip (intent : OrderIntent) (price : ℚ) : Except EngineError (Option ℚ) :=
  match broker.slippageModel.apply broker.decimalText intent.side price with
  | .error raised => .error raised
  | .ok fillPrice => .ok (some fillPrice)

/-- `_compute_fill_price`. -/
def computeFillPrice (intent : OrderIntent) (bar : Domain.Bar) : Except EngineError (Option ℚ) :=
  match intent.orderType with
  | .market => broker.slip intent bar.close
  | .limit =>
      match intent.price with
      | none => .error (.valueError "LIMIT order has no price set on OrderIntent")
      | some limitPrice =>
          match intent.side with
          | .buy => if bar.low ≤ limitPrice then broker.slip intent limitPrice else .ok none
          | .sell => if limitPrice ≤ bar.high then broker.slip intent limitPrice else .ok none
  | .sl | .slM => .ok none

/-- The part of `execute_order_intent` after the fill price. -/
def fillAt (fillId : String) (intent : OrderIntent) (bar : Domain.Bar) (price : ℚ)
    (portfolio : BacktestPortfolio) :
    Except ExecutionError (Option TradeFill) × BacktestPortfolio :=
  match broker.costModel.calculateFees broker.decimalText intent.side intent.quantity price with
  | .error raised => (.error (.engine raised), portfolio)
  | .ok fees =>
      match Exchange.ofText intent.exchange with
      | none =>
          (.error (.engine
            (.valueError (broker.py.repr intent.exchange ++ " is not a valid Exchange"))),
            portfolio)
      | some exchange =>
          match makeFill broker.py fillId intent.symbol exchange intent.side intent.quantity
              price fees bar.timestamp with
          | .error raised => (.error (.engine raised), portfolio)
          | .ok fill =>
              match portfolio.applyFill fill with
              | (.error cause, portfolio) => (.error (.insufficientPosition cause), portfolio)
              | (.ok (), portfolio) => (.ok (some fill), portfolio)

def executeOrderIntent (fillId : String) (intent : OrderIntent) (bar : Domain.Bar)
    (portfolio : BacktestPortfolio) :
    Except ExecutionError (Option TradeFill) × BacktestPortfolio :=
  if intent.orderType = .sl ∨ intent.orderType = .slM then
    (.error (.unsupportedOrderType ("Order type " ++ broker.py.repr intent.orderType.text ++
      " is not supported in paper trading v1. Use MARKET or LIMIT orders.")), portfolio)
  else
    match broker.computeFillPrice intent bar with
    | .error raised => (.error (.engine raised), portfolio)
    | .ok none => (.ok none, portfolio)
    | .ok (some price) => broker.fillAt fillId intent bar price portfolio

/-! ### The same fills -/

/-- The simulated broker with the same models. -/
def simulated : SimulatedBroker :=
  { costModel := broker.costModel
    slippageModel := broker.slippageModel
    py := broker.py
    decimalText := broker.decimalText }

variable {broker} {fillId : String} {intent : OrderIntent} {bar : Domain.Bar}

theorem computeFillPrice_toOption (broker : PaperExecutionBroker) (intent : OrderIntent)
    (bar : Domain.Bar) :
    (broker.computeFillPrice intent bar).toOption.join =
      (referencePrice intent bar).bind fun reference =>
        (broker.slippageModel.apply broker.decimalText intent.side reference).toOption := by
  have slipped : ∀ reference, (broker.slip intent reference).toOption.join =
      (broker.slippageModel.apply broker.decimalText intent.side reference).toOption := by
    intro reference
    unfold slip
    cases broker.slippageModel.apply broker.decimalText intent.side reference <;> rfl
  unfold computeFillPrice referencePrice
  cases intent.orderType with
  | sl => rfl
  | slM => rfl
  | market => exact slipped bar.close
  | limit =>
      cases intent.price with
      | none => rfl
      | some limitPrice =>
          cases side : intent.side with
          | buy =>
              rw [side] at slipped
              dsimp only
              split_ifs
              · exact slipped limitPrice
              · rfl
          | sell =>
              rw [side] at slipped
              dsimp only
              split_ifs
              · exact slipped limitPrice
              · rfl

theorem caught_fillAt (price : ℚ) (portfolio : BacktestPortfolio) :
    caught (broker.fillAt fillId intent bar price portfolio) =
      portfolio.settle (broker.simulated.fillAt fillId intent bar price).toOption := by
  unfold fillAt SimulatedBroker.fillAt simulated
  dsimp only
  cases broker.costModel.calculateFees broker.decimalText intent.side intent.quantity price with
  | error raised => rfl
  | ok fees =>
      cases Exchange.ofText intent.exchange with
      | none => rfl
      | some exchange =>
          dsimp only
          cases makeFill broker.py fillId intent.symbol exchange intent.side intent.quantity
              price fees bar.timestamp with
          | error raised => rfl
          | ok fill => exact caught_applyFill portfolio fill

theorem caught_executeOrderIntent (portfolio : BacktestPortfolio) :
    caught (broker.executeOrderIntent fillId intent bar portfolio) =
      caught (broker.simulated.executeOrderIntent fillId intent bar portfolio) := by
  rw [SimulatedBroker.caught_executeOrderIntent]
  have priced := computeFillPrice_toOption broker intent bar
  unfold executeOrderIntent SimulatedBroker.quote
  rw [← Option.bind_assoc]
  change _ = portfolio.settle (((referencePrice intent bar).bind fun reference =>
    (broker.slippageModel.apply broker.decimalText intent.side reference).toOption).bind _)
  rw [← priced]
  split_ifs with stop
  · have unpriced : broker.computeFillPrice intent bar = .ok none := by
      unfold computeFillPrice
      rcases stop with sl | slM
      · rw [sl]
      · rw [slM]
    rw [unpriced]
    rfl
  · cases broker.computeFillPrice intent bar with
    | error raised => rfl
    | ok answer =>
        cases answer with
        | none => rfl
        | some price => exact caught_fillAt price portfolio

end PaperExecutionBroker

end TradingEngine.Paper
