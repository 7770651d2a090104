/-
Runs with and without a risk engine.

Limits that are never reached do not make a risk engine transparent.  It also rejects an
intent that it cannot price, and the snapshot that it asks for may not be constructible.
-/

import TradingEngine.Backtest.Engine

namespace TradingEngine.Backtest

open Domain Risk RoundLoop

variable {σ κ : Type}

/-- What is compared of two runs. -/
def BacktestReport.trading (report : BacktestReport κ) : List TradeFill × List (Datetime × ℚ) :=
  (report.fills, report.equityCurve)

/-- No numeric limit is reached at an intent that is checked. -/
def WithinLimits (riskEngine : RiskEngine) (py : Python) : SessionEvent σ → Prop
  | .handled row intent session =>
      ∀ snapshot, session.portfolio.getSnapshot py = .ok snapshot →
        riskEngine.Headroom intent snapshot row.bar.timestamp session.riskState
  | .entered _row _session => True
  | .left _row _session => True

instance (riskEngine : RiskEngine) (py : Python) :
    (event : SessionEvent σ) → Decidable (WithinLimits riskEngine py event)
  | .handled row intent session =>
      decidable_of_iff
        (∀ snapshot ∈ (session.portfolio.getSnapshot py).toOption,
          riskEngine.Headroom intent snapshot row.bar.timestamp session.riskState)
        (by
          unfold WithinLimits
          simp only [Option.mem_def, toOption_eq_some_iff])
  | .entered _row _session => isTrue trivial
  | .left _row _session => isTrue trivial

/-- Two sessions that trade alike, the first one with the kill switch off. -/
structure SameTrading (left right : Session σ) : Prop where
  strategyState : left.strategyState = right.strategyState
  portfolio : left.portfolio = right.portfolio
  fills : left.fills = right.fills
  latestPrices : left.latestPrices = right.latestPrices
  handled : left.handled = right.handled
  off : left.riskState.killSwitch.active = false

theorem BacktestPortfolio.settle_of_none {portfolio : BacktestPortfolio}
    {quoted : Option TradeFill} (unfilled : (portfolio.settle quoted).1 = none) :
    (portfolio.settle quoted).2 = portfolio := by
  cases quoted with
  | none => rfl
  | some fill =>
      unfold settle at unfilled ⊢
      dsimp only at unfilled ⊢
      split_ifs at unfilled ⊢
      rfl

namespace BacktestEngine

variable (engine : BacktestEngine σ κ)

/-- The engine without its risk engine. -/
def unguarded : BacktestEngine σ κ :=
  { engine with riskEngine := none }

/-- The snapshot for an intent can be taken, and an intent that would be filled is listed and
has a price. -/
def Judged (riskEngine : RiskEngine) : SessionEvent σ → Prop
  | .handled row intent session =>
      ∃ snapshot, session.portfolio.getSnapshot engine.simulatedBroker.py = .ok snapshot ∧
        ((engine.settlement row intent session).1 ≠ none →
          riskEngine.Listed intent ∧ RiskEngine.estimatePrice intent snapshot ≠ none)
  | .entered _row _session => True
  | .left _row _session => True

instance (riskEngine : RiskEngine) :
    (event : SessionEvent σ) → Decidable (engine.Judged riskEngine event)
  | .handled row intent session =>
      decidable_of_iff
        (∃ snapshot ∈ (session.portfolio.getSnapshot engine.simulatedBroker.py).toOption,
          (engine.settlement row intent session).1 ≠ none →
            riskEngine.Listed intent ∧ RiskEngine.estimatePrice intent snapshot ≠ none)
        (by
          unfold Judged
          simp only [Option.mem_def, toOption_eq_some_iff])
  | .entered _row _session => isTrue trivial
  | .left _row _session => isTrue trivial

variable {engine}

/-- What is rejected although no limit is reached would not be filled. -/
theorem unfilled_of_rejected {riskEngine : RiskEngine} {row : FeedRow} {intent : OrderIntent}
    {session : Session σ} {snapshot : PortfolioSnapshot} {riskDecisionId : String}
    (room : riskEngine.Headroom intent snapshot row.bar.timestamp session.riskState)
    (known : (engine.settlement row intent session).1 ≠ none →
      riskEngine.Listed intent ∧ RiskEngine.estimatePrice intent snapshot ≠ none)
    (off : session.riskState.killSwitch.active = false)
    (rejected : (riskEngine.checkOrderIntent riskDecisionId intent snapshot row.bar.timestamp
      session.riskState).1.approved = false) :
    (engine.settlement row intent session).1 = none := by
  by_contra filled
  obtain ⟨listed, priced⟩ := known filled
  obtain ⟨price, estimated⟩ := Option.ne_none_iff_exists'.mp priced
  have approved := RiskEngine.approved_of_headroom off listed room estimated riskDecisionId
  rw [rejected] at approved
  cases approved

section Guarded

variable {riskEngine : RiskEngine} (guarded : engine.riskEngine = some riskEngine)
include guarded

theorem follows_handleIntent {row : FeedRow} {intent : OrderIntent} {left right : Session σ}
    (within : WithinLimits riskEngine engine.simulatedBroker.py (.handled row intent left))
    (judged : engine.Judged riskEngine (.handled row intent left))
    (same : SameTrading left right) :
    Agree SameTrading (engine.handleIntent row intent left)
      (engine.unguarded.handleIntent row intent right) := by
  obtain ⟨snapshot, taken, known⟩ := judged
  obtain ⟨next, handled⟩ := engine.handleIntent_isOk row intent taken
  obtain ⟨decision, riskState, checked, outcome⟩ := handleIntent_cases handled
  obtain ⟨_, taken', answered, state⟩ := runRiskCheck_eq_ok guarded checked
  rw [taken] at taken'
  cases taken'
  have alone : engine.unguarded.riskEngine = none := rfl
  have settled : engine.unguarded.settlement row intent right =
      engine.settlement row intent left := by
    unfold settlement
    rw [same.portfolio, same.handled]
    rfl
  have off : riskState.killSwitch.active = false := by
    rw [state, RiskEngine.killSwitch_checkOrderIntent]
    exact same.off
  rw [handled, handleIntent_of_none alone, settled]
  rcases outcome with ⟨_, rfl⟩ | ⟨refusal, refused, rejected, rfl⟩
  · exact
      { strategyState := same.strategyState
        portfolio := rfl
        fills := by
          dsimp only
          rw [same.fills]
        latestPrices := same.latestPrices
        handled := congrArg (· + 1) same.handled
        off := off }
  · have unfilled : (engine.settlement row intent left).1 = none := by
      rw [answered] at refused
      rw [← Option.some.inj refused] at rejected
      exact unfilled_of_rejected (within snapshot taken) known same.off rejected
    exact
      { strategyState := same.strategyState
        portfolio := by
          change left.portfolio = (engine.settlement row intent left).2
          exact (BacktestPortfolio.settle_of_none unfilled).symm
        fills := by
          dsimp only
          rw [unfilled, same.fills]
          exact (List.append_nil _).symm
        latestPrices := same.latestPrices
        handled := congrArg (· + 1) same.handled
        off := off }

theorem follows_unguarded :
    Simulates engine.loop engine.unguarded.loop
      (fun _past event => WithinLimits riskEngine engine.simulatedBroker.py event ∧
        engine.Judged riskEngine event)
      (fun _past left right => SameTrading left right) where
  enter _past row left right _allowed same := by
    change Agree _ (engine.onBar row left) (engine.onBar row right)
    unfold onBar
    rw [same.strategyState]
    cases engine.strategy.onBar row.bar engine.context right.strategyState with
    | error raised => exact rfl
    | ok answer =>
        refine ⟨rfl, ?_⟩
        exact
          { same with
            strategyState := rfl
            latestPrices := by
              dsimp only
              rw [same.latestPrices] }
  item _past row intent left right allowed same :=
    follows_handleIntent guarded allowed.1 allowed.2 same
  leave _past row left right same :=
    { same with
      portfolio := by
        change left.portfolio.markToMarket _ _ = right.portfolio.markToMarket _ _
        rw [same.portfolio, same.latestPrices] }

/-- With the kill switch off and no limit reached, a guarded run that can price and value what
it fills has the fills and the equity curve of the unguarded run. -/
theorem risk_transparent (off : engine.riskState.killSwitch.active = false)
    (candles : List Domain.Bar)
    (within : ∀ event ∈ engine.traceRows (iterBars candles),
      WithinLimits riskEngine engine.simulatedBroker.py event)
    (judged : ∀ event ∈ engine.traceRows (iterBars candles), engine.Judged riskEngine event) :
    (engine.run candles).map BacktestReport.trading =
      (engine.unguarded.run candles).map BacktestReport.trading := by
  have agree : Agree SameTrading (engine.runRows (iterBars candles))
      (engine.unguarded.runRows (iterBars candles)) := by
    unfold traceRows at within judged
    unfold runRows
    have begun : engine.unguarded.start = engine.start := rfl
    rw [begun]
    cases started : engine.start with
    | error raised => exact rfl
    | ok session =>
        rw [started] at within judged
        have allowed : Along (fun _past event =>
            WithinLimits riskEngine engine.simulatedBroker.py event ∧
              engine.Judged riskEngine event) [] (engine.loop.trace (iterBars candles) session) :=
          along_of_forall (fun event member => ⟨within event member, judged event member⟩)
        obtain ⟨strategyState, _, rfl⟩ := start_eq_ok started
        exact (follows_unguarded guarded).run allowed
          { strategyState := rfl
            portfolio := rfl
            fills := rfl
            latestPrices := rfl
            handled := rfl
            off := off }
  unfold run
  rcases agree.cases with ⟨raised, mine, theirs⟩ | ⟨left, right, mine, theirs, same⟩
  · rw [mine, theirs]
  · rw [mine, theirs]
    unfold Except.map BacktestReport.trading report
    dsimp only
    rw [same.fills, same.portfolio]

end Guarded

/-! ### Orders without a price -/

def generous : RiskEngine :=
  RiskEngine.ascii
    { maxDailyLoss := 1000000
      maxOrderValue := 1000000000
      maxOpenPositions := 1000
      maxTradesPerDay := 1000
      maxOrdersPerSecond := 1000 }

def tradingBars : List Domain.Bar :=
  [flatBar "INFY" 0 100, flatBar "INFY" 60000000 105]

def pricedEngine : BacktestEngine (List (List OrderIntent)) Unit :=
  scriptedEngine (some generous) [[limitOrder "INFY" .buy 100], [marketOrder "INFY" .sell]]

def unpricedEngine : BacktestEngine (List (List OrderIntent)) Unit :=
  scriptedEngine (some generous) [[marketOrder "INFY" .buy], [marketOrder "INFY" .sell]]

theorem priced_transparent :
    (pricedEngine.run tradingBars).map BacktestReport.trading =
      (pricedEngine.unguarded.run tradingBars).map BacktestReport.trading := by
  have guarded : pricedEngine.riskEngine = some generous := rfl
  exact risk_transparent guarded rfl tradingBars (by decide +kernel) (by decide +kernel)

/-- A market order for a symbol that is not held has no price, so it is rejected although no
limit is reached. -/
theorem unpriced_not_transparent :
    unpricedEngine.riskState.killSwitch.active = false ∧
      (∀ event ∈ unpricedEngine.traceRows (iterBars tradingBars),
        WithinLimits generous unpricedEngine.simulatedBroker.py event) ∧
      (unpricedEngine.run tradingBars).map BacktestReport.trading ≠
        (unpricedEngine.unguarded.run tradingBars).map BacktestReport.trading := by
  refine ⟨rfl, by decide +kernel, ?_⟩
  intro same
  have counts := congrArg
    (fun outcome : Except EngineError (List TradeFill × List (Datetime × ℚ)) =>
      outcome.toOption.map (fun trading => trading.1.length)) same
  revert counts
  decide +kernel

/-- A position that is marked below zero makes the snapshot raise. -/
example :
    let engine := scriptedEngine (some generous)
      [[limitOrder "INFY" .buy 100], [], [limitOrder "INFY" .sell 100]]
    let bars := [flatBar "INFY" 0 100, flatBar "INFY" 60000000 (-1), flatBar "INFY" 120000000 100]
    (engine.run bars).toOption.isNone = true ∧
      (engine.unguarded.run bars).toOption.isSome = true := by
  decide +kernel

end BacktestEngine

end TradingEngine.Backtest
