/-
The backtest engine: bars in order, each handed to the strategy, whose intents pass the
risk engine and then the broker.

A rejected intent is recorded and an order that fails is dropped.  What the strategy or
the snapshot for the risk engine raises ends the run.
-/

import Mathlib.Data.List.Sort
import TradingEngine.Backtest.SimulatedBroker
import TradingEngine.General.RoundLoop
import TradingEngine.Risk.RiskEngine
import TradingEngine.Strategies.Base

namespace TradingEngine.Backtest

open Domain Risk Strategies
open Signals (Side)

/-! ### The feed -/

/-- What a feed yields; the first component of the triple is the timestamp of the bar. -/
structure FeedRow where
  symbol : String
  bar : Domain.Bar
deriving DecidableEq

def FeedRow.ofBar (bar : Domain.Bar) : FeedRow :=
  { symbol := bar.symbol
    bar := bar }

/-- The order of `rows.sort`, by timestamp and then by symbol. -/
def FeedRow.Before (left right : FeedRow) : Prop :=
  left.bar.timestamp < right.bar.timestamp ∨
    left.bar.timestamp = right.bar.timestamp ∧ left.symbol ≤ right.symbol

instance : DecidableRel FeedRow.Before :=
  fun _left _right => inferInstanceAs (Decidable (_ ∨ _))

def sortRows (rows : List FeedRow) : List FeedRow :=
  rows.insertionSort FeedRow.Before

/-- `HistoricalDataFeed.iter_bars`. -/
def iterBars (candles : List Domain.Bar) : List FeedRow :=
  sortRows (candles.map FeedRow.ofBar)

theorem sortRows_sorted {rows : List FeedRow} (sorted : rows.Pairwise FeedRow.Before) :
    sortRows rows = rows :=
  sorted.insertionSort_eq

theorem mem_iterBars {candles : List Domain.Bar} {row : FeedRow} :
    row ∈ iterBars candles ↔ ∃ bar ∈ candles, FeedRow.ofBar bar = row :=
  (List.mem_insertionSort _).trans List.mem_map

/-! ### The session -/

/-- The local variables of `run`, with the strategy, the portfolio and the risk engine.
`handled` counts the intents. -/
structure Session (σ : Type) where
  strategyState : σ
  portfolio : BacktestPortfolio
  riskState : RiskState
  fills : List TradeFill
  rejectedDecisions : List RiskDecision
  startTime : Option Datetime
  endTime : Option Datetime
  latestPrices : OrderedDict String ℚ
  handled : ℕ

structure BacktestReport (κ : Type) where
  strategyId : String
  symbols : List String
  startTime : Option Datetime
  endTime : Option Datetime
  initialCash : ℚ
  finalEquity : ℚ
  fills : List TradeFill
  equityCurve : List (Datetime × ℚ)
  parameters : κ
  rejectedRiskDecisions : List RiskDecision

/-- What an engine does in a run, one event at a time. -/
abbrev SessionEvent (σ : Type) : Type :=
  RoundLoop.Event (Session σ) FeedRow OrderIntent

/-- The `_run_risk_check` of an engine. -/
abbrev SessionCheck (σ : Type) : Type :=
  OrderIntent → Datetime → Session σ → Except EngineError (Option RiskDecision × RiskState)

/-- The decision on an intent, if there is a risk engine and its snapshot can be taken. -/
def decisionBy {σ : Type} (check : SessionCheck σ) (row : FeedRow) (intent : OrderIntent)
    (session : Session σ) : Option RiskDecision :=
  (check intent row.bar.timestamp session).toOption.bind Prod.fst

/-- The engine with its collaborators as they are when `run` is called.  The identifiers of
the `n`-th intent come from two supplies. -/
structure BacktestEngine (σ κ : Type) where
  strategy : Strategy σ κ
  strategyState : σ
  portfolio : BacktestPortfolio
  simulatedBroker : SimulatedBroker
  initialCash : ℚ
  strategyId : String
  symbols : List String
  parameters : κ
  riskEngine : Option RiskEngine
  riskState : RiskState
  fillId : ℕ → String
  riskDecisionId : ℕ → String

namespace BacktestEngine

variable {σ κ : Type} (engine : BacktestEngine σ κ)

def context : StrategyContext κ :=
  { strategyId := engine.strategyId
    mode := .backtest
    config := engine.parameters }

/-! ### One bar -/

/-- `_run_risk_check`. -/
def runRiskCheck (intent : OrderIntent) (ts : Datetime) (session : Session σ) :
    Except EngineError (Option RiskDecision × RiskState) :=
  match engine.riskEngine with
  | none => .ok (none, session.riskState)
  | some riskEngine =>
      match session.portfolio.getSnapshot engine.simulatedBroker.py with
      | .error raised => .error raised
      | .ok snapshot =>
          let (decision, riskState) := riskEngine.checkOrderIntent
            (engine.riskDecisionId session.handled) intent snapshot ts session.riskState
          .ok (some decision, riskState)

/-- The call of the broker, with the fill appended if there is one. -/
def execute (row : FeedRow) (intent : OrderIntent) (session : Session σ) : Session σ :=
  let (fill, portfolio) := caught (engine.simulatedBroker.executeOrderIntent
    (engine.fillId session.handled) intent row.bar session.portfolio)
  { session with
    portfolio := portfolio
    fills := session.fills ++ fill.toList }

/-- The body of the loop over the intents of a bar. -/
def handleIntent (row : FeedRow) (intent : OrderIntent) (session : Session σ) :
    Except EngineError (Session σ) :=
  match engine.runRiskCheck intent row.bar.timestamp session with
  | .error raised => .error raised
  | .ok (decision, riskState) =>
      let settled :=
        match decision with
        | none => engine.execute row intent session
        | some decision =>
            if decision.approved then engine.execute row intent session
            else { session with rejectedDecisions := session.rejectedDecisions ++ [decision] }
      .ok
        { settled with
          riskState := riskState
          handled := session.handled + 1 }

def onBar (row : FeedRow) (session : Session σ) :
    Except EngineError (List OrderIntent × Session σ) :=
  match engine.strategy.onBar row.bar engine.context session.strategyState with
  | .error raised => .error raised
  | .ok (orderIntents, strategyState) =>
      .ok (orderIntents,
        { session with
          strategyState := strategyState
          startTime := some (session.startTime.getD row.bar.timestamp)
          endTime := some row.bar.timestamp
          latestPrices := session.latestPrices.insert row.symbol row.bar.close })

def mark (row : FeedRow) (session : Session σ) : Session σ :=
  { session with
    portfolio := session.portfolio.markToMarket row.bar.timestamp session.latestPrices }

/-! ### The run -/

def loop : RoundLoop EngineError (Session σ) FeedRow OrderIntent :=
  { enter := engine.onBar
    item := engine.handleIntent
    leave := mark }

/-- The part of `run` before the loop. -/
def start : Except EngineError (Session σ) :=
  match engine.strategy.onStart engine.context engine.strategyState with
  | .error raised => .error raised
  | .ok strategyState =>
      .ok
        { strategyState := strategyState
          portfolio := engine.portfolio
          riskState := engine.riskState
          fills := []
          rejectedDecisions := []
          startTime := none
          endTime := none
          latestPrices := OrderedDict.empty
          handled := 0 }

def runRows (rows : List FeedRow) : Except EngineError (Session σ) :=
  match engine.start with
  | .error raised => .error raised
  | .ok session => engine.loop.run rows session

def traceRows (rows : List FeedRow) : List (SessionEvent σ) :=
  match engine.start with
  | .error _raised => []
  | .ok session => engine.loop.trace rows session

/-- The part of `run` after the loop. -/
def report (session : Session σ) : BacktestReport κ :=
  { strategyId := engine.strategyId
    symbols := engine.symbols
    startTime := session.startTime
    endTime := session.endTime
    initialCash := engine.initialCash
    finalEquity := session.portfolio.totalEquity session.latestPrices
    fills := session.fills
    equityCurve := session.portfolio.equityCurve
    parameters := engine.parameters
    rejectedRiskDecisions := session.rejectedDecisions }

def run (candles : List Domain.Bar) : Except EngineError (BacktestReport κ) :=
  match engine.runRows (iterBars candles) with
  | .error raised => .error raised
  | .ok session => .ok (engine.report session)

/-! ### What one intent does -/

def settlement (row : FeedRow) (intent : OrderIntent) (session : Session σ) :
    Option TradeFill × BacktestPortfolio :=
  session.portfolio.settle
    (engine.simulatedBroker.quote (engine.fillId session.handled) intent row.bar)

variable {engine}

theorem execute_eq (row : FeedRow) (intent : OrderIntent) (session : Session σ) :
    engine.execute row intent session =
      { session with
        portfolio := (engine.settlement row intent session).2
        fills := session.fills ++ (engine.settlement row intent session).1.toList } := by
  unfold execute settlement
  rw [← SimulatedBroker.caught_executeOrderIntent]

theorem handleIntent_cases {row : FeedRow} {intent : OrderIntent} {session session' : Session σ}
    (handled : engine.handleIntent row intent session = .ok session') :
    ∃ decision riskState,
      engine.runRiskCheck intent row.bar.timestamp session = .ok (decision, riskState) ∧
        ((decision.all RiskDecision.approved = true ∧
            session' =
              { session with
                portfolio := (engine.settlement row intent session).2
                fills := session.fills ++ (engine.settlement row intent session).1.toList
                riskState := riskState
                handled := session.handled + 1 }) ∨
          ∃ refusal, decision = some refusal ∧ refusal.approved = false ∧
            session' =
              { session with
                rejectedDecisions := session.rejectedDecisions ++ [refusal]
                riskState := riskState
                handled := session.handled + 1 }) := by
  unfold handleIntent at handled
  cases checked : engine.runRiskCheck intent row.bar.timestamp session with
  | error raised =>
      rw [checked] at handled
      cases handled
  | ok answer =>
      obtain ⟨decision, riskState⟩ := answer
      rw [checked] at handled
      refine ⟨decision, riskState, rfl, ?_⟩
      cases decision with
      | none =>
          dsimp only at handled
          rw [execute_eq] at handled
          exact Or.inl ⟨rfl, (Except.ok.inj handled).symm⟩
      | some decision =>
          dsimp only at handled
          cases verdict : decision.approved with
          | true =>
              rw [verdict, if_pos rfl, execute_eq] at handled
              exact Or.inl ⟨verdict, (Except.ok.inj handled).symm⟩
          | false =>
              rw [verdict, if_neg Bool.false_ne_true] at handled
              exact Or.inr ⟨decision, rfl, verdict, (Except.ok.inj handled).symm⟩

theorem handleIntent_of_none (alone : engine.riskEngine = none) (row : FeedRow)
    (intent : OrderIntent) (session : Session σ) :
    engine.handleIntent row intent session =
      .ok
        { session with
          portfolio := (engine.settlement row intent session).2
          fills := session.fills ++ (engine.settlement row intent session).1.toList
          handled := session.handled + 1 } := by
  unfold handleIntent runRiskCheck
  rw [alone]
  dsimp only
  rw [execute_eq]

theorem handleIntent_isOk (row : FeedRow) (intent : OrderIntent) {session : Session σ}
    {snapshot : PortfolioSnapshot}
    (taken : session.portfolio.getSnapshot engine.simulatedBroker.py = .ok snapshot) :
    ∃ session', engine.handleIntent row intent session = .ok session' := by
  unfold handleIntent runRiskCheck
  rw [taken]
  cases engine.riskEngine with
  | none => exact ⟨_, rfl⟩
  | some riskEngine => exact ⟨_, rfl⟩

theorem runRiskCheck_eq_ok {riskEngine : RiskEngine} (guarded : engine.riskEngine = some riskEngine)
    {intent : OrderIntent} {ts : Datetime} {session : Session σ} {decision : Option RiskDecision}
    {riskState : RiskState}
    (checked : engine.runRiskCheck intent ts session = .ok (decision, riskState)) :
    ∃ snapshot, session.portfolio.getSnapshot engine.simulatedBroker.py = .ok snapshot ∧
      decision = some (riskEngine.checkOrderIntent (engine.riskDecisionId session.handled) intent
        snapshot ts session.riskState).1 ∧
      riskState = (riskEngine.checkOrderIntent (engine.riskDecisionId session.handled) intent
        snapshot ts session.riskState).2 := by
  unfold runRiskCheck at checked
  rw [guarded] at checked
  dsimp only at checked
  cases taken : session.portfolio.getSnapshot engine.simulatedBroker.py with
  | error raised =>
      rw [taken] at checked
      cases checked
  | ok snapshot =>
      rw [taken] at checked
      cases checked
      exact ⟨snapshot, rfl, rfl, rfl⟩

theorem onBar_eq_ok {row : FeedRow} {session session' : Session σ} {intents : List OrderIntent}
    (entered : engine.onBar row session = .ok (intents, session')) :
    ∃ strategyState,
      engine.strategy.onBar row.bar engine.context session.strategyState =
        .ok (intents, strategyState) ∧
      session' =
        { session with
          strategyState := strategyState
          startTime := some (session.startTime.getD row.bar.timestamp)
          endTime := some row.bar.timestamp
          latestPrices := session.latestPrices.insert row.symbol row.bar.close } := by
  unfold onBar at entered
  cases answered : engine.strategy.onBar row.bar engine.context session.strategyState with
  | error raised =>
      rw [answered] at entered
      cases entered
  | ok answer =>
      obtain ⟨orderIntents, strategyState⟩ := answer
      rw [answered] at entered
      cases entered
      exact ⟨strategyState, rfl, rfl⟩

/-! ### Invariants of a run -/

theorem traceRows_history (rows : List FeedRow)
    {Hist : List (SessionEvent σ) → Session σ → Prop}
    (started : ∀ session, engine.start = .ok session → Hist [] session)
    (keeps : engine.loop.Keeps Hist) :
    RoundLoop.Along (fun past event => Hist past event.state) [] (engine.traceRows rows) ∧
      ∀ session, engine.runRows rows = .ok session → Hist (engine.traceRows rows) session := by
  unfold traceRows runRows
  cases begun : engine.start with
  | error raised =>
      refine ⟨RoundLoop.along_nil, fun session ran => ?_⟩
      cases ran
  | ok session => exact keeps.trace rows (started session begun)

theorem traceRows_inLast (rows : List FeedRow) :
    RoundLoop.Along (fun past event => event.InLast (RoundLoop.rounds past)) []
      (engine.traceRows rows) := by
  unfold traceRows
  cases engine.start with
  | error raised => exact RoundLoop.along_nil
  | ok session => exact engine.loop.trace_inLast rows [] session

theorem rounds_traceRows_subset (rows : List FeedRow) :
    RoundLoop.rounds (engine.traceRows rows) ⊆ rows := by
  unfold traceRows
  cases engine.start with
  | error raised => exact List.nil_subset _
  | ok session => exact (engine.loop.rounds_trace_prefix rows session).subset

theorem traceRows_invariant (rows : List FeedRow) {Holds : Session σ → Prop}
    (started : ∀ session, engine.start = .ok session → Holds session)
    (keeps : engine.loop.Keeps (fun _past session => Holds session)) :
    (∀ event ∈ engine.traceRows rows, Holds event.state) ∧
      ∀ session, engine.runRows rows = .ok session → Holds session := by
  obtain ⟨along, final⟩ := traceRows_history rows started keeps
  refine ⟨?_, final⟩
  intro event member
  obtain ⟨earlier, later, split⟩ := List.append_of_mem member
  exact along earlier event later split

theorem start_eq_ok {session : Session σ} (started : engine.start = .ok session) :
    ∃ strategyState,
      engine.strategy.onStart engine.context engine.strategyState = .ok strategyState ∧
      session =
        { strategyState := strategyState
          portfolio := engine.portfolio
          riskState := engine.riskState
          fills := []
          rejectedDecisions := []
          startTime := none
          endTime := none
          latestPrices := OrderedDict.empty
          handled := 0 } := by
  unfold start at started
  split at started
  · cases started
  · rename_i strategyState begun
    exact ⟨strategyState, begun, (Except.ok.inj started).symm⟩

end BacktestEngine

/-! ### A small engine for concrete runs -/

/-- The strategy that answers the next bar with the next list of its script. -/
def scripted : Strategy (List (List OrderIntent)) Unit :=
  { onStart := Strategy.noStart
    onBar := fun _bar _context script => .ok (script.headD [], script.tail) }

def marketOrder (symbol : String) (side : Side) : OrderIntent :=
  { sampleIntent with
    symbol := symbol
    side := side }

def limitOrder (symbol : String) (side : Side) (price : ℚ) : OrderIntent :=
  { sampleIntent with
    symbol := symbol
    side := side
    orderType := .limit
    price := some price
    shape :=
      { quantity_pos := by decide
        limit_priced := nofun
        stop_triggered := by rintro (limit | limit) <;> cases limit } }

def sampleBroker : SimulatedBroker :=
  { costModel := {}
    slippageModel := {}
    py := Python.ascii
    decimalText := fun _ => "" }

def scriptedEngine (riskEngine : Option RiskEngine) (script : List (List OrderIntent)) :
    BacktestEngine (List (List OrderIntent)) Unit :=
  { strategy := scripted
    strategyState := script
    portfolio := turningStart
    simulatedBroker := sampleBroker
    initialCash := 1000
    strategyId := "scripted"
    symbols := ["INFY", "TCS"]
    parameters := ()
    riskEngine := riskEngine
    riskState := RiskState.new KillSwitch.new
    fillId := fun count => "fill_" ++ toString count
    riskDecisionId := fun count => "risk_" ++ toString count }

end TradingEngine.Backtest
