/-
The paper trading engine.

It is written apart from the backtest engine, over a feed that yields ready bars and with
the execution broker of paper trading, and computes no metrics.
-/

import TradingEngine.Backtest.Engine
import TradingEngine.Paper.Broker

namespace TradingEngine.Paper

open Backtest Domain Risk Strategies

structure PaperTradingReport (κ : Type) where
  strategyId : String
  symbols : List String
  startTime : Option Datetime
  endTime : Option Datetime
  initialCash : ℚ
  finalEquity : ℚ
  fills : List TradeFill
  rejectedRiskDecisions : List RiskDecision
  equityCurve : List (Datetime × ℚ)
  parameters : κ

/-- The engine with its collaborators as they are when `run` is called; `PaperPortfolio` is
`BacktestPortfolio` under another name. -/
structure PaperTradingEngine (σ κ : Type) where
  strategy : Strategy σ κ
  strategyState : σ
  portfolio : BacktestPortfolio
  executionBroker : PaperExecutionBroker
  strategyId : String
  symbols : List String
  initialCash : ℚ
  riskEngine : Option RiskEngine
  riskState : RiskState
  parameters : κ
  fillId : ℕ → String
  riskDecisionId : ℕ → String

namespace PaperTradingEngine

variable {σ κ : Type} (engine : PaperTradingEngine σ κ)

def context : StrategyContext κ :=
  { strategyId := engine.strategyId
    mode := .paper
    config := engine.parameters }

/-- `_run_risk_check`. -/
def runRiskCheck (intent : OrderIntent) (ts : Datetime) (session : Session σ) :
    Except EngineError (Option RiskDecision × RiskState) :=
  match engine.riskEngine with
  | none => .ok (none, session.riskState)
  | some riskEngine =>
      match session.portfolio.getSnapshot engine.executionBroker.py with
      | .error raised => .error raised
      | .ok snapshot =>
          let (decision, riskState) := riskEngine.checkOrderIntent
            (engine.riskDecisionId session.handled) intent snapshot ts session.riskState
          .ok (some decision, riskState)

/-- The call of the broker, with the fill appended if there is one. -/
def execute (row : FeedRow) (intent : OrderIntent) (session : Session σ) : Session σ :=
  let (fill, portfolio) := caught (engine.executionBroker.executeOrderIntent
    (engine.fillId session.handled) intent row.bar session.portfolio)
  { session with
    portfolio := portfolio
    fills := session.fills ++ fill.toList }

/-- The body of the loop over the intents of a bar. -/
def handleIntent (row : FeedRow) (intent : OrderIntent) (session : Session σ) :
    Except EngineError (Session σ) :=
  match engine.runRiskCheck intent row.bar.timestamp session with
  | .error raised => .error raised
  | .ok (decision, riskState) =>
      let settled :=
        match decision with
        | none => engine.execute row intent session
        | some decision =>
            if decision.approved then engine.execute row intent session
            else { session with rejectedDecisions := session.rejectedDecisions ++ [decision] }
      .ok
        { settled with
          riskState := riskState
          handled := session.handled + 1 }

def onBar (row : FeedRow) (session : Session σ) :
    Except EngineError (List OrderIntent × Session σ) :=
  match engine.strategy.onBar row.bar engine.context session.strategyState with
  | .error raised => .error raised
  | .ok (orderIntents, strategyState) =>
      .ok (orderIntents,
        { session with
          strategyState := strategyState
          startTime := some (session.startTime.getD row.bar.timestamp)
          endTime := some row.bar.timestamp
          latestPrices := session.latestPrices.insert row.symbol row.bar.close })

def mark (row : FeedRow) (session : Session σ) : Session σ :=
  { session with
    portfolio := session.portfolio.markToMarket row.bar.timestamp session.latestPrices }

def loop : RoundLoop EngineError (Session σ) FeedRow OrderIntent :=
  { enter := engine.onBar
    item := engine.handleIntent
    leave := mark }

/-- The part of `run` before the loop. -/
def start : Except EngineError (Session σ) :=
  match engine.strategy.onStart engine.context engine.strategyState with
  | .error raised => .error raised
  | .ok strategyState =>
      .ok
        { strategyState := strategyState
          portfolio := engine.portfolio
          riskState := engine.riskState
          fills := []
          rejectedDecisions := []
          startTime := none
          endTime := none
          latestPrices := OrderedDict.empty
          handled := 0 }

def runRows (rows : List FeedRow) : Except EngineError (Session σ) :=
  match engine.start with
  | .error raised => .error raised
  | .ok session => engine.loop.run rows session

def traceRows (rows : List FeedRow) : List (SessionEvent σ) :=
  match engine.start with
  | .error _raised => []
  | .ok session => engine.loop.trace rows session

/-- The part of `run` after the loop. -/
def report (session : Session σ) : PaperTradingReport κ :=
  { strategyId := engine.strategyId
    symbols := engine.symbols
    startTime := session.startTime
    endTime := session.endTime
    initialCash := engine.initialCash
    finalEquity := session.portfolio.totalEquity session.latestPrices
    fills := session.fills
    rejectedRiskDecisions := session.rejectedDecisions
    equityCurve := session.portfolio.equityCurve
    parameters := engine.parameters }

/-- `run`, over the rows of `PaperMarketFeed`, whose keys need not be the symbols of the
bars. -/
def run (rows : List FeedRow) : Except EngineError (PaperTradingReport κ) :=
  match engine.runRows (sortRows rows) with
  | .error raised => .error raised
  | .ok session => .ok (engine.report session)

/-! ### The same run as a backtest -/

/-- The backtest engine with the same collaborators, its strategy in paper mode. -/
def asBacktest : BacktestEngine σ κ :=
  { strategy := engine.strategy.inMode .paper
    strategyState := engine.strategyState
    portfolio := engine.portfolio
    simulatedBroker := engine.executionBroker.simulated
    initialCash := engine.initialCash
    strategyId := engine.strategyId
    symbols := engine.symbols
    parameters := engine.parameters
    riskEngine := engine.riskEngine
    riskState := engine.riskState
    fillId := engine.fillId
    riskDecisionId := engine.riskDecisionId }

theorem execute_eq (row : FeedRow) (intent : OrderIntent) (session : Session σ) :
    engine.execute row intent session = engine.asBacktest.execute row intent session := by
  unfold execute BacktestEngine.execute
  rw [PaperExecutionBroker.caught_executeOrderIntent]
  rfl

theorem loop_eq : engine.loop = engine.asBacktest.loop := by
  have handled : engine.handleIntent = engine.asBacktest.handleIntent := by
    funext row intent session
    unfold handleIntent BacktestEngine.handleIntent
    simp only [execute_eq]
    rfl
  unfold loop BacktestEngine.loop
  rw [handled]
  rfl

theorem start_eq : engine.start = engine.asBacktest.start :=
  rfl

theorem runRows_eq (rows : List FeedRow) :
    engine.runRows rows = engine.asBacktest.runRows rows := by
  unfold runRows BacktestEngine.runRows
  rw [start_eq]
  cases engine.asBacktest.start with
  | error raised => rfl
  | ok session => exact congrArg (fun loop => loop.run rows session) engine.loop_eq

theorem traceRows_eq (rows : List FeedRow) :
    engine.traceRows rows = engine.asBacktest.traceRows rows := by
  unfold traceRows BacktestEngine.traceRows
  rw [start_eq]
  cases engine.asBacktest.start with
  | error raised => rfl
  | ok session => exact congrArg (fun loop => loop.trace rows session) engine.loop_eq

end PaperTradingEngine

end TradingEngine.Paper
