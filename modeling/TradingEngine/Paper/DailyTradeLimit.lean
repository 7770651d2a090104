/-
The limit on trades per day over runs of several days.

The counter lives in the risk engine and is set back by `reset_daily_state`, which no
engine calls.  So the limit is one on the whole run, and it is the day's own only where
the approvals that fill it are all of that day.
-/

import TradingEngine.Backtest.EngineAgreement
import TradingEngine.Paper.Engine

namespace TradingEngine.Paper

open Backtest Domain Risk RoundLoop
open RiskEngine (TradesLimited tradesLimited_iff tradesToday_checkOrderIntent)

variable {σ κ : Type}

/-! ### Approvals of a run -/

def approvalTime? (check : SessionCheck σ) : SessionEvent σ → Option Datetime
  | .handled row intent session =>
      if (decisionBy check row intent session).any RiskDecision.approved then
        some row.bar.timestamp
      else none
  | _ => none

/-- The times of the approvals that a risk engine has counted: those before the run and those
of the run. -/
def counted (check : SessionCheck σ) (before : List Datetime) (past : List (SessionEvent σ)) :
    List Datetime :=
  before ++ past.filterMap (approvalTime? check)

theorem counted_append (check : SessionCheck σ) (before : List Datetime)
    (past : List (SessionEvent σ)) (event : SessionEvent σ) :
    counted check before (past ++ [event]) =
      counted check before past ++ (approvalTime? check event).toList := by
  unfold counted
  rw [List.filterMap_append, List.append_assoc]
  cases found : approvalTime? check event <;> simp [found]

/-- An intent is rejected for the trades per day only if the limit was used up on its own
day. -/
def LimitIsDaily (check : SessionCheck σ) (maxTradesPerDay : ℕ) (before : List Datetime)
    (past : List (SessionEvent σ)) : SessionEvent σ → Prop
  | .handled row intent session =>
      (decisionBy check row intent session).any (fun decision => TradesLimited decision) = true →
        maxTradesPerDay ≤ ((counted check before past).filter
          (fun ts => tradingDay ts = tradingDay row.bar.timestamp)).length
  | _ => True

instance (check : SessionCheck σ) (maxTradesPerDay : ℕ) (before : List Datetime)
    (past : List (SessionEvent σ)) :
    (event : SessionEvent σ) → Decidable (LimitIsDaily check maxTradesPerDay before past event)
  | .handled _row _intent _session => inferInstanceAs (Decidable (_ → _))
  | .entered _row _session => isTrue trivial
  | .left _row _session => isTrue trivial

/-- The intent passes every check before the one of the trades per day. -/
def ReachesTradesCheck (riskEngine : RiskEngine) (py : Python) (row : FeedRow)
    (intent : OrderIntent) (session : Session σ) : Prop :=
  ∃ snapshot, session.portfolio.getSnapshot py = .ok snapshot ∧
    riskEngine.beforeTradesPerDay "" intent snapshot row.bar.timestamp session.riskState = none

/-- An intent that reaches the check when the counter is full comes on the day of every
approval in it. -/
def CounterIsOfTheDay (riskEngine : RiskEngine) (py : Python) (check : SessionCheck σ)
    (before : List Datetime) (past : List (SessionEvent σ)) : SessionEvent σ → Prop
  | .handled row intent session =>
      ReachesTradesCheck riskEngine py row intent session →
        riskEngine.limits.maxTradesPerDay ≤ (counted check before past).length →
          ∀ ts ∈ counted check before past, tradingDay ts = tradingDay row.bar.timestamp
  | _ => True

/-! ### The counter of a run -/

/-- The counter of the risk engine is the number of approvals, within the limit. -/
structure CounterKept (check : SessionCheck σ) (maxTradesPerDay : ℕ) (before : List Datetime)
    (past : List (SessionEvent σ)) (session : Session σ) : Prop where
  counted : session.riskState.tradesToday = (counted check before past).length
  within : session.riskState.tradesToday ≤ maxTradesPerDay

section Backtest

variable {engine : BacktestEngine σ κ} {riskEngine : RiskEngine}
  (guarded : engine.riskEngine = some riskEngine)
include guarded

theorem keeps_counter (before : List Datetime) :
    engine.loop.Keeps
      (CounterKept engine.runRiskCheck riskEngine.limits.maxTradesPerDay before) where
  enter past row session intents session' kept entered := by
    obtain ⟨strategyState, _, rfl⟩ := BacktestEngine.onBar_eq_ok entered
    refine ⟨?_, kept.within⟩
    rw [counted_append]
    exact kept.counted.trans (congrArg List.length (List.append_nil _).symm)
  item past row intent session session' kept handled := by
    obtain ⟨decision, riskState, checked, settled⟩ := BacktestEngine.handleIntent_cases handled
    have state : session'.riskState = riskState := by
      obtain ⟨_, rfl⟩ | ⟨_, _, _, rfl⟩ := settled <;> rfl
    have answered : decisionBy engine.runRiskCheck row intent session = decision := by
      unfold decisionBy
      rw [checked]
      rfl
    obtain ⟨snapshot, taken, rfl, rfl⟩ := BacktestEngine.runRiskCheck_eq_ok guarded checked
    obtain ⟨counts, within⟩ := tradesToday_checkOrderIntent riskEngine
      (engine.riskDecisionId session.handled) intent snapshot row.bar.timestamp session.riskState
    refine ⟨?_, ?_⟩
    · rw [state, counts, counted_append, List.length_append, kept.counted]
      congr 1
      unfold approvalTime?
      dsimp only
      rw [answered, Option.any_some]
      split_ifs <;> rfl
    · rw [state]
      exact within kept.within
  leave past row session kept := by
    refine ⟨?_, kept.within⟩
    rw [counted_append]
    exact kept.counted.trans (congrArg List.length (List.append_nil _).symm)

/-- An intent is rejected for the trades per day exactly when it reaches that check with a
full counter. -/
theorem tradesLimited_by_iff (row : FeedRow) (intent : OrderIntent) (session : Session σ) :
    (decisionBy engine.runRiskCheck row intent session).any
        (fun decision => TradesLimited decision) = true ↔
      ReachesTradesCheck riskEngine engine.simulatedBroker.py row intent session ∧
        riskEngine.limits.maxTradesPerDay ≤ session.riskState.tradesToday := by
  unfold decisionBy ReachesTradesCheck BacktestEngine.runRiskCheck
  rw [guarded]
  dsimp only
  cases session.portfolio.getSnapshot engine.simulatedBroker.py with
  | error raised =>
      constructor
      · intro limited
        cases limited
      · rintro ⟨⟨snapshot, taken, _⟩, _⟩
        cases taken
  | ok snapshot =>
      have unnamed : ∀ name, riskEngine.beforeTradesPerDay name intent snapshot
            row.bar.timestamp session.riskState = none ↔
          riskEngine.beforeTradesPerDay "" intent snapshot row.bar.timestamp
            session.riskState = none := by
        intro name
        rw [← Option.map_eq_none_iff, anonymous_beforeTradesPerDay riskEngine name "",
          Option.map_eq_none_iff]
      change decide (TradesLimited _) = true ↔ _
      rw [decide_eq_true_iff, tradesLimited_iff, unnamed]
      constructor
      · rintro ⟨passed, exhausted⟩
        exact ⟨⟨snapshot, rfl, passed⟩, exhausted⟩
      · rintro ⟨⟨_, ⟨⟩, passed⟩, exhausted⟩
        exact ⟨passed, exhausted⟩

theorem limitIsDaily_iff {before : List Datetime} {past : List (SessionEvent σ)}
    {event : SessionEvent σ}
    (kept : CounterKept engine.runRiskCheck riskEngine.limits.maxTradesPerDay before past
      event.state) :
    LimitIsDaily engine.runRiskCheck riskEngine.limits.maxTradesPerDay before past event ↔
      CounterIsOfTheDay riskEngine engine.simulatedBroker.py engine.runRiskCheck before past
        event := by
  cases event with
  | entered row session => exact Iff.rfl
  | left row session => exact Iff.rfl
  | handled row intent session =>
      unfold LimitIsDaily CounterIsOfTheDay
      dsimp only
      obtain ⟨count, within⟩ := kept
      rw [show (Event.handled row intent session).state = session from rfl] at count within
      rw [tradesLimited_by_iff guarded, count]
      generalize counted engine.runRiskCheck before past = approvals at count ⊢
      constructor
      · intro daily reaches full
        have used := daily ⟨reaches, full⟩
        have most := List.length_filter_le
          (fun ts => decide (tradingDay ts = tradingDay row.bar.timestamp)) approvals
        have all : (approvals.filter
            (fun ts => tradingDay ts = tradingDay row.bar.timestamp)).length =
            approvals.length := by
          omega
        intro ts member
        exact of_decide_eq_true (List.length_filter_eq_length_iff.mp all ts member)
      · rintro ofTheDay ⟨reaches, full⟩
        have all := List.length_filter_eq_length_iff.mpr
          (fun ts member => decide_eq_true (ofTheDay reaches full ts member))
        rw [all]
        exact full

theorem limit_daily_along_iff {before : List Datetime}
    (within : before.length ≤ riskEngine.limits.maxTradesPerDay)
    (count : engine.riskState.tradesToday = before.length) (rows : List FeedRow) :
    Along (LimitIsDaily engine.runRiskCheck riskEngine.limits.maxTradesPerDay before) []
        (engine.traceRows rows) ↔
      Along (CounterIsOfTheDay riskEngine engine.simulatedBroker.py engine.runRiskCheck before) []
        (engine.traceRows rows) := by
  have started : ∀ session, engine.start = .ok session →
      CounterKept engine.runRiskCheck riskEngine.limits.maxTradesPerDay before [] session := by
    intro session begun
    obtain ⟨strategyState, _, rfl⟩ := BacktestEngine.start_eq_ok begun
    refine ⟨?_, ?_⟩
    · change engine.riskState.tradesToday = _
      rw [count]
      exact congrArg List.length (List.append_nil before).symm
    · change engine.riskState.tradesToday ≤ _
      rw [count]
      exact within
  have kept := (BacktestEngine.traceRows_history rows started (keeps_counter guarded before)).1
  exact kept.congr (fun _past _event holds => limitIsDaily_iff guarded holds)

end Backtest

/-! ### Both engines -/

/-- In a run of either engine the limit on trades per day is one of the day exactly when an
intent that meets a full counter comes on the day of all the approvals in it. -/
theorem trades_limit_daily_iff {riskEngine : RiskEngine} {before : List Datetime}
    (within : before.length ≤ riskEngine.limits.maxTradesPerDay) :
    (∀ (engine : BacktestEngine σ κ) (candles : List Domain.Bar),
      engine.riskEngine = some riskEngine → engine.riskState.tradesToday = before.length →
        (Along (LimitIsDaily engine.runRiskCheck riskEngine.limits.maxTradesPerDay before) []
            (engine.traceRows (iterBars candles)) ↔
          Along (CounterIsOfTheDay riskEngine engine.simulatedBroker.py engine.runRiskCheck
            before) [] (engine.traceRows (iterBars candles)))) ∧
      ∀ (engine : PaperTradingEngine σ κ) (rows : List FeedRow),
        engine.riskEngine = some riskEngine → engine.riskState.tradesToday = before.length →
          (Along (LimitIsDaily engine.runRiskCheck riskEngine.limits.maxTradesPerDay before) []
              (engine.traceRows (sortRows rows)) ↔
            Along (CounterIsOfTheDay riskEngine engine.executionBroker.py engine.runRiskCheck
              before) [] (engine.traceRows (sortRows rows))) := by
  constructor
  · intro engine candles guarded count
    exact limit_daily_along_iff guarded within count (iterBars candles)
  · intro engine rows guarded count
    have guardedToo : engine.asBacktest.riskEngine = some riskEngine := guarded
    rw [engine.traceRows_eq]
    exact limit_daily_along_iff guardedToo within count (sortRows rows)

/-! ### A counter that stays full overnight -/

def oneTrade : RiskEngine :=
  RiskEngine.ascii
    { RiskLimits.standard with
      maxTradesPerDay := 1
      maxTradesPerDay_pos := Nat.one_pos }

def overnightEngine : BacktestEngine (List (List OrderIntent)) Unit :=
  scriptedEngine (some oneTrade) [[limitOrder "INFY" .buy 100], [limitOrder "INFY" .buy 100]]

def overnightBars : List Domain.Bar :=
  [flatBar "INFY" 0 100, flatBar "INFY" 86400000000 100]

theorem overnight_daily_iff :
    Along (LimitIsDaily overnightEngine.runRiskCheck oneTrade.limits.maxTradesPerDay []) []
        (overnightEngine.traceRows (iterBars overnightBars)) ↔
      Along (CounterIsOfTheDay oneTrade overnightEngine.simulatedBroker.py
        overnightEngine.runRiskCheck []) []
        (overnightEngine.traceRows (iterBars overnightBars)) := by
  have within : ([] : List Datetime).length ≤ oneTrade.limits.maxTradesPerDay := Nat.zero_le 1
  exact (trades_limit_daily_iff within).1 overnightEngine overnightBars rfl rfl

/-- The only intent of the second day is rejected although nothing was approved on it. -/
theorem overnight_not_daily :
    ¬ Along (LimitIsDaily overnightEngine.runRiskCheck oneTrade.limits.maxTradesPerDay []) []
      (overnightEngine.traceRows (iterBars overnightBars)) := by
  decide +kernel

end TradingEngine.Paper
