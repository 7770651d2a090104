/-
The three drivers agree.

A paper run and a live session are each shadowed by a backtest engine with the same
collaborators; two backtest engines with one setup agree up to identifiers.
-/

import TradingEngine.Backtest.EngineAgreement
import TradingEngine.Paper.LiveRunner

namespace TradingEngine.Paper

open Backtest Domain Risk RoundLoop Strategies

variable {σ κ : Type}

def PaperTradingReport.outcome (report : PaperTradingReport κ) : Outcome :=
  { fills := report.fills.map anonymousFill
    rejectedDecisions := report.rejectedRiskDecisions.map anonymousDecision
    equityCurve := report.equityCurve }

def RunnerState.outcome (state : RunnerState σ) : Outcome :=
  { fills := state.fills.map anonymousFill
    rejectedDecisions := state.rejected.map anonymousDecision
    equityCurve := state.portfolio.equityCurve }

/-! ### The live session as a backtest -/

namespace PaperLiveRunner

variable (runner : PaperLiveRunner σ κ)

/-- The backtest engine with the same collaborators, its strategy in paper mode. -/
def asBacktest : BacktestEngine σ κ :=
  { strategy := runner.strategy.inMode .paper
    strategyState := runner.strategyState
    portfolio := runner.portfolio
    simulatedBroker := runner.executionBroker.simulated
    initialCash := 0
    strategyId := runner.strategyId
    symbols := []
    parameters := runner.config
    riskEngine := runner.riskEngine
    riskState := runner.riskState
    fillId := runner.fillId
    riskDecisionId := runner.riskDecisionId }

/-- The session holds what the runner holds. -/
structure Shadows (session : Session σ) (state : RunnerState σ) : Prop where
  strategyState : session.strategyState = state.strategyState
  portfolio : session.portfolio = state.portfolio
  riskState : session.riskState = state.riskState
  fills : session.fills = state.fills
  rejected : session.rejectedDecisions = state.rejected
  latestPrices : session.latestPrices = state.latestPrices
  handled : session.handled = state.handled

variable {runner} {shadow : Session σ} {state : RunnerState σ}

theorem Shadows.runRiskCheck (shadows : Shadows shadow state) (intent : OrderIntent)
    (ts : Datetime) :
    runner.asBacktest.runRiskCheck intent ts shadow = runner.runRiskCheck intent ts state := by
  unfold BacktestEngine.runRiskCheck PaperLiveRunner.runRiskCheck
  rw [shadows.portfolio, shadows.riskState, shadows.handled]
  rfl

theorem Shadows.execute (runner : PaperLiveRunner σ κ) (shadows : Shadows shadow state)
    (row : FeedRow) (intent : OrderIntent) :
    Shadows (runner.asBacktest.execute row intent shadow)
      (runner.execute row.bar intent state) := by
  unfold BacktestEngine.execute PaperLiveRunner.execute
  rw [PaperExecutionBroker.caught_executeOrderIntent, shadows.portfolio, shadows.handled,
    shadows.fills]
  exact
    { strategyState := shadows.strategyState
      portfolio := rfl
      riskState := shadows.riskState
      fills := rfl
      rejected := shadows.rejected
      latestPrices := shadows.latestPrices
      handled := rfl }

theorem Shadows.handleIntent (shadows : Shadows shadow state) (row : FeedRow)
    (intent : OrderIntent) :
    Agree Shadows (runner.asBacktest.handleIntent row intent shadow)
      (runner.handleIntent row.bar intent state) := by
  unfold BacktestEngine.handleIntent PaperLiveRunner.handleIntent
  rw [shadows.runRiskCheck]
  cases runner.runRiskCheck intent row.bar.timestamp state with
  | error raised => exact rfl
  | ok answer =>
      obtain ⟨decision, riskState⟩ := answer
      have executed := shadows.execute runner row intent
      have counted := congrArg (fun count => count + 1) shadows.handled
      cases decision with
      | none => exact { executed with riskState := rfl, handled := counted }
      | some decision =>
          dsimp only
          cases decision.approved with
          | true => exact { executed with riskState := rfl, handled := counted }
          | false =>
              rw [if_neg Bool.false_ne_true, if_neg Bool.false_ne_true]
              exact
                { shadows with
                  riskState := rfl
                  rejected := congrArg (fun rejected => rejected ++ [decision]) shadows.rejected
                  handled := counted }

theorem Shadows.onBar (runner : PaperLiveRunner σ κ) (shadows : Shadows shadow state)
    (bar : Domain.Bar) :
    Agree (fun opened answer => opened.1 = answer.1 ∧ Shadows opened.2 answer.2)
      (runner.asBacktest.onBar (FeedRow.ofBar bar) shadow) (runner.onBar bar state) := by
  have played : runner.asBacktest.strategy.onBar (FeedRow.ofBar bar).bar runner.asBacktest.context
      shadow.strategyState =
        runner.strategy.onBar bar runner.context state.strategyState := by
    rw [shadows.strategyState]
    rfl
  unfold BacktestEngine.onBar PaperLiveRunner.onBar
  rw [played]
  cases runner.strategy.onBar bar runner.context state.strategyState with
  | error raised => exact rfl
  | ok answer =>
      exact ⟨rfl,
        { shadows with
          strategyState := rfl
          latestPrices := congrArg (fun prices => prices.insert bar.symbol bar.close)
            shadows.latestPrices }⟩

theorem simulates (runner : PaperLiveRunner σ κ) :
    Simulates (runner.asBacktest.loop.comap FeedRow.ofBar) runner.loop
      (fun _past _event => True) (fun _past => Shadows) where
  enter _past bar _shadow _state _allowed shadows :=
    shadows.onBar runner bar
  item _past bar intent _shadow _state _allowed shadows :=
    shadows.handleIntent (FeedRow.ofBar bar) intent
  leave _past bar shadow state shadows :=
    { shadows with
      portfolio := by
        change shadow.portfolio.markToMarket bar.timestamp shadow.latestPrices =
          state.portfolio.markToMarket bar.timestamp state.latestPrices
        rw [shadows.portfolio, shadows.latestPrices] }

theorem start_shadowed (runner : PaperLiveRunner σ κ) :
    Agree Shadows runner.asBacktest.start (runner.start runner.new) := by
  have played : runner.asBacktest.strategy.onStart runner.asBacktest.context
      runner.asBacktest.strategyState =
        runner.strategy.onStart runner.context runner.new.strategyState := by
    rfl
  unfold BacktestEngine.start PaperLiveRunner.start
  rw [if_neg (show ¬ runner.new.started = true from Bool.false_ne_true), played]
  cases runner.strategy.onStart runner.context runner.new.strategyState with
  | error raised => exact rfl
  | ok strategyState =>
      exact
        { strategyState := rfl
          portfolio := rfl
          riskState := rfl
          fills := rfl
          rejected := rfl
          latestPrices := rfl
          handled := rfl }

theorem session_shadowed (runner : PaperLiveRunner σ κ) (bars : List Domain.Bar) :
    Agree Shadows (runner.asBacktest.runRows (bars.map FeedRow.ofBar)) (runner.session bars) := by
  unfold BacktestEngine.runRows session
  rcases runner.start_shadowed.cases with
    ⟨raised, mine, theirs⟩ | ⟨shadow, state, mine, theirs, same⟩
  · rw [mine, theirs]
    exact rfl
  · rw [mine, theirs]
    dsimp only
    rw [processBars_eq, ← run_comap]
    exact runner.simulates.agree bars same

end PaperLiveRunner

/-! ### The three drivers -/

/-- The three drivers are built from one strategy, portfolio, broker models and risk engine. -/
structure SameCollaborators (backtest : BacktestEngine σ κ) (paper : PaperTradingEngine σ κ)
    (runner : PaperLiveRunner σ κ) : Prop where
  strategyId : paper.strategyId = backtest.strategyId ∧ runner.strategyId = backtest.strategyId
  strategy : paper.strategy = backtest.strategy ∧ runner.strategy = backtest.strategy
  strategyState : paper.strategyState = backtest.strategyState ∧
    runner.strategyState = backtest.strategyState
  portfolio : paper.portfolio = backtest.portfolio ∧ runner.portfolio = backtest.portfolio
  broker : paper.executionBroker.simulated = backtest.simulatedBroker ∧
    runner.executionBroker.simulated = backtest.simulatedBroker
  riskEngine : paper.riskEngine = backtest.riskEngine ∧ runner.riskEngine = backtest.riskEngine
  riskState : paper.riskState = backtest.riskState ∧ runner.riskState = backtest.riskState

section Agreement

variable {backtest : BacktestEngine σ κ} {paper : PaperTradingEngine σ κ}
  {runner : PaperLiveRunner σ κ} (same : SameCollaborators backtest paper runner)
  (ignores : backtest.strategy.IgnoresContext)
include same ignores

theorem SameCollaborators.paperSetup : paper.asBacktest.SameSetup backtest where
  onStart state := by
    change paper.strategy.onStart _ state = _
    rw [same.strategy.1]
    exact ignores.onStart _ _ state same.strategyId.1
  onBar bar state := by
    change paper.strategy.onBar bar _ state = _
    rw [same.strategy.1]
    exact ignores.onBar bar _ _ state same.strategyId.1
  strategyState := same.strategyState.1
  portfolio := same.portfolio.1
  simulatedBroker := same.broker.1
  riskEngine := same.riskEngine.1
  riskState := same.riskState.1

theorem SameCollaborators.runnerSetup : runner.asBacktest.SameSetup backtest where
  onStart state := by
    change runner.strategy.onStart _ state = _
    rw [same.strategy.2]
    exact ignores.onStart _ _ state same.strategyId.2
  onBar bar state := by
    change runner.strategy.onBar bar _ state = _
    rw [same.strategy.2]
    exact ignores.onBar bar _ _ state same.strategyId.2
  strategyState := same.strategyState.2
  portfolio := same.portfolio.2
  simulatedBroker := same.broker.2
  riskEngine := same.riskEngine.2
  riskState := same.riskState.2

/-- Over bars in feed order the paper engine and the live runner end like the backtest engine:
the same fills and rejections up to identifiers, the same equity curve, the same exception. -/
theorem drivers_agree {bars : List Domain.Bar}
    (ordered : bars.Pairwise (fun earlier later =>
      (FeedRow.ofBar earlier).Before (FeedRow.ofBar later))) :
    (paper.run (bars.map FeedRow.ofBar)).map PaperTradingReport.outcome =
        (backtest.run bars).map BacktestReport.outcome ∧
      (runner.session bars).map RunnerState.outcome =
        (backtest.run bars).map BacktestReport.outcome := by
  have inOrder : sortRows (bars.map FeedRow.ofBar) = bars.map FeedRow.ofBar :=
    sortRows_sorted (List.pairwise_map.mpr ordered)
  have feed : iterBars bars = bars.map FeedRow.ofBar := inOrder
  rw [backtest.run_outcome, feed]
  constructor
  · have agreed := (same.paperSetup ignores).runRows (bars.map FeedRow.ofBar)
    rw [← PaperTradingEngine.runRows_eq] at agreed
    rw [← agreed.map_eq (fun _ _ alike => alike.outcome)]
    unfold PaperTradingEngine.run
    rw [inOrder]
    cases paper.runRows (bars.map FeedRow.ofBar) <;> rfl
  · have agreed := (same.runnerSetup ignores).runRows (bars.map FeedRow.ofBar)
    rw [← agreed.map_eq (fun _ _ alike => alike.outcome)]
    have shadowed : ∀ (shadow : Session σ) (state : RunnerState σ),
        PaperLiveRunner.Shadows shadow state → shadow.outcome = state.outcome := by
      intro shadow state shadows
      unfold Session.outcome RunnerState.outcome
      rw [shadows.fills, shadows.rejected, shadows.portfolio]
    exact ((runner.session_shadowed bars).map_eq shadowed).symm

end Agreement

/-! ### Three small drivers -/

def paperDriver : PaperTradingEngine (List (List OrderIntent)) Unit :=
  { strategy := scripted
    strategyState := [[limitOrder "INFY" .buy 100, marketOrder "INFY" .buy]]
    portfolio := turningStart
    executionBroker :=
      { costModel := sampleBroker.costModel
        slippageModel := sampleBroker.slippageModel
        py := Python.ascii
        decimalText := fun _ => "" }
    strategyId := "scripted"
    symbols := ["INFY"]
    initialCash := 1000
    riskEngine := some (RiskEngine.ascii RiskLimits.standard)
    riskState := RiskState.new KillSwitch.new
    parameters := ()
    fillId := fun count => "paper_" ++ toString count
    riskDecisionId := fun count => "risk_" ++ toString count }

def liveDriver : PaperLiveRunner (List (List OrderIntent)) Unit :=
  { strategyId := "scripted"
    config := ()
    strategy := scripted
    strategyState := paperDriver.strategyState
    executionBroker := paperDriver.executionBroker
    portfolio := turningStart
    riskEngine := paperDriver.riskEngine
    riskState := paperDriver.riskState
    fillId := fun count => "live_" ++ toString count
    riskDecisionId := fun count => "risk_" ++ toString count }

theorem smallDrivers_agree :
    (paperDriver.run ([flatBar "INFY" 0 100].map FeedRow.ofBar)).map PaperTradingReport.outcome =
        ((scriptedEngine paperDriver.riskEngine paperDriver.strategyState).run
          [flatBar "INFY" 0 100]).map BacktestReport.outcome ∧
      (liveDriver.session [flatBar "INFY" 0 100]).map RunnerState.outcome =
        ((scriptedEngine paperDriver.riskEngine paperDriver.strategyState).run
          [flatBar "INFY" 0 100]).map BacktestReport.outcome := by
  have same : SameCollaborators
      (scriptedEngine paperDriver.riskEngine paperDriver.strategyState) paperDriver liveDriver :=
    { strategyId := ⟨rfl, rfl⟩
      strategy := ⟨rfl, rfl⟩
      strategyState := ⟨rfl, rfl⟩
      portfolio := ⟨rfl, rfl⟩
      broker := ⟨rfl, rfl⟩
      riskEngine := ⟨rfl, rfl⟩
      riskState := ⟨rfl, rfl⟩ }
  exact drivers_agree same
    { onStart := fun _context _other _state _same => rfl
      onBar := fun _bar _context _other _state _same => rfl }
    (List.pairwise_singleton _ _)

end TradingEngine.Paper
