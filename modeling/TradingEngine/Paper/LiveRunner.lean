/-
The runner of live paper trading, which processes one completed bar at a time.

The runner keeps its fills, rejections and latest prices across bars.  The notifier and
the dashboard writer swallow their own failures and change nothing that is kept here.
-/

import TradingEngine.Paper.Engine

namespace TradingEngine.Paper

open Backtest Domain Risk Strategies

/-- The attributes that a session changes, with the strategy, the portfolio and the risk
engine.  `handled` counts the intents. -/
structure RunnerState (σ : Type) where
  strategyState : σ
  portfolio : BacktestPortfolio
  riskState : RiskState
  fills : List TradeFill
  rejected : List RiskDecision
  latestPrices : OrderedDict String ℚ
  started : Bool
  handled : ℕ

/-- The runner with its collaborators as they are when it is built; `config` stands for the
empty configuration of its context. -/
structure PaperLiveRunner (σ κ : Type) where
  strategyId : String
  config : κ
  strategy : Strategy σ κ
  strategyState : σ
  executionBroker : PaperExecutionBroker
  portfolio : BacktestPortfolio
  riskEngine : Option RiskEngine
  riskState : RiskState
  fillId : ℕ → String
  riskDecisionId : ℕ → String

namespace PaperLiveRunner

variable {σ κ : Type} (runner : PaperLiveRunner σ κ)

def context : StrategyContext κ :=
  { strategyId := runner.strategyId
    mode := .paper
    config := runner.config }

/-- `__init__`. -/
def new : RunnerState σ :=
  { strategyState := runner.strategyState
    portfolio := runner.portfolio
    riskState := runner.riskState
    fills := []
    rejected := []
    latestPrices := OrderedDict.empty
    started := false
    handled := 0 }

def start (state : RunnerState σ) : Except EngineError (RunnerState σ) :=
  if state.started then .ok state
  else
    match runner.strategy.onStart runner.context state.strategyState with
    | .error raised => .error raised
    | .ok strategyState =>
        .ok
          { state with
            strategyState := strategyState
            started := true }

/-- `_run_risk_check`. -/
def runRiskCheck (intent : OrderIntent) (ts : Datetime) (state : RunnerState σ) :
    Except EngineError (Option RiskDecision × RiskState) :=
  match runner.riskEngine with
  | none => .ok (none, state.riskState)
  | some riskEngine =>
      match state.portfolio.getSnapshot runner.executionBroker.py with
      | .error raised => .error raised
      | .ok snapshot =>
          let (decision, riskState) := riskEngine.checkOrderIntent
            (runner.riskDecisionId state.handled) intent snapshot ts state.riskState
          .ok (some decision, riskState)

/-- The call of the broker, with the fill appended if there is one. -/
def execute (bar : Domain.Bar) (intent : OrderIntent) (state : RunnerState σ) : RunnerState σ :=
  let (fill, portfolio) := caught (runner.executionBroker.executeOrderIntent
    (runner.fillId state.handled) intent bar state.portfolio)
  { state with
    portfolio := portfolio
    fills := state.fills ++ fill.toList }

/-- The body of the loop over the intents of a bar. -/
def handleIntent (bar : Domain.Bar) (intent : OrderIntent) (state : RunnerState σ) :
    Except EngineError (RunnerState σ) :=
  match runner.runRiskCheck intent bar.timestamp state with
  | .error raised => .error raised
  | .ok (decision, riskState) =>
      let settled :=
        match decision with
        | none => runner.execute bar intent state
        | some decision =>
            if decision.approved then runner.execute bar intent state
            else { state with rejected := state.rejected ++ [decision] }
      .ok
        { settled with
          riskState := riskState
          handled := state.handled + 1 }

def onBar (bar : Domain.Bar) (state : RunnerState σ) :
    Except EngineError (List OrderIntent × RunnerState σ) :=
  match runner.strategy.onBar bar runner.context state.strategyState with
  | .error raised => .error raised
  | .ok (orderIntents, strategyState) =>
      .ok (orderIntents,
        { state with
          strategyState := strategyState
          latestPrices := state.latestPrices.insert bar.symbol bar.close })

def mark (bar : Domain.Bar) (state : RunnerState σ) : RunnerState σ :=
  { state with
    portfolio := state.portfolio.markToMarket bar.timestamp state.latestPrices }

def loop : RoundLoop EngineError (RunnerState σ) Domain.Bar OrderIntent :=
  { enter := runner.onBar
    item := runner.handleIntent
    leave := mark }

/-- `_process_bar`. -/
def processBar (bar : Domain.Bar) (state : RunnerState σ) : Except EngineError (RunnerState σ) :=
  runner.loop.step bar state

def processBars : List Domain.Bar → RunnerState σ → Except EngineError (RunnerState σ)
  | [], state => .ok state
  | bar :: rest, state =>
      match runner.processBar bar state with
      | .error raised => .error raised
      | .ok state => processBars rest state

def session (bars : List Domain.Bar) : Except EngineError (RunnerState σ) :=
  match runner.start runner.new with
  | .error raised => .error raised
  | .ok state => runner.processBars bars state

theorem processBars_eq (bars : List Domain.Bar) (state : RunnerState σ) :
    runner.processBars bars state = runner.loop.run bars state := by
  induction bars generalizing state with
  | nil => rfl
  | cons bar rest ih =>
      unfold processBars RoundLoop.run processBar
      cases runner.loop.step bar state with
      | error raised => rfl
      | ok next => exact ih next

end PaperLiveRunner

end TradingEngine.Paper
