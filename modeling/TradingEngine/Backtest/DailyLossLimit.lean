/-
The limit on the daily loss over runs of several days.

The risk engine compares the total P&L of the snapshot with the limit.  The total runs
from the start of the portfolio, so what earlier days made or lost counts against the day.
-/

import TradingEngine.Backtest.EngineAgreement

namespace TradingEngine.Backtest

open Domain Risk RoundLoop
open RiskEngine (lossLimited_iff totalPnl)

variable {σ κ : Type}

/-- The realised and unrealised P&L that a portfolio reports. -/
def BacktestPortfolio.pnl (portfolio : BacktestPortfolio) : ℚ :=
  portfolio.positions.total (fun _symbol pos => pos.realizedPnl) +
    portfolio.positions.total (fun _symbol pos => pos.unrealizedPnl)

/-- The event hands the strategy a bar of the day. -/
def opensDay (date : ℤ) (event : SessionEvent σ) : Bool :=
  event.entered?.any (fun row => tradingDay row.bar.timestamp = date)

/-- The state before the first bar of a day. -/
def dayStart (date : ℤ) (past : List (SessionEvent σ)) : Option (Session σ) :=
  (past.find? (opensDay date)).map Event.state

/-- The intent passes every check before the one of the daily loss. -/
def ReachesLossCheck (riskEngine : RiskEngine) (py : Python) (row : FeedRow)
    (intent : OrderIntent) (session : Session σ) : Prop :=
  ∃ snapshot, session.portfolio.getSnapshot py = .ok snapshot ∧
    riskEngine.beforeDailyLoss "" intent snapshot row.bar.timestamp session.riskState = none

instance (riskEngine : RiskEngine) (py : Python) (row : FeedRow) (intent : OrderIntent)
    (session : Session σ) : Decidable (ReachesLossCheck riskEngine py row intent session) :=
  decidable_of_iff
    (∃ snapshot ∈ (session.portfolio.getSnapshot py).toOption,
      (riskEngine.beforeDailyLoss "" intent snapshot row.bar.timestamp
        session.riskState).isNone = true)
    (by
      unfold ReachesLossCheck
      simp only [Option.mem_def, toOption_eq_some_iff, Option.isNone_iff_eq_none])

/-- An intent that reaches the check is rejected for the daily loss exactly when the P&L made
since the start of its day is below the limit. -/
def LossIsDaily (riskEngine : RiskEngine) (py : Python) (check : SessionCheck σ)
    (past : List (SessionEvent σ)) : SessionEvent σ → Prop
  | .handled row intent session =>
      ReachesLossCheck riskEngine py row intent session →
        ∃ opening, dayStart (tradingDay row.bar.timestamp) past = some opening ∧
          ((∃ decision, decisionBy check row intent session = some decision ∧
              decision.reasonCode = .dailyLossLimitBreached) ↔
            session.portfolio.pnl - opening.portfolio.pnl < -riskEngine.limits.maxDailyLoss)
  | _ => True

instance (riskEngine : RiskEngine) (py : Python) (check : SessionCheck σ)
    (past : List (SessionEvent σ)) :
    (event : SessionEvent σ) → Decidable (LossIsDaily riskEngine py check past event)
  | .handled row intent session =>
      inferInstanceAs (Decidable (ReachesLossCheck riskEngine py row intent session →
        ∃ opening ∈ dayStart (tradingDay row.bar.timestamp) past,
          ((∃ decision ∈ decisionBy check row intent session,
              decision.reasonCode = .dailyLossLimitBreached) ↔
            session.portfolio.pnl - opening.portfolio.pnl < -riskEngine.limits.maxDailyLoss)))
  | .entered _row _session => isTrue trivial
  | .left _row _session => isTrue trivial

/-- The total P&L at the check is outside the band between the limit and the limit shifted by
what was carried into the day. -/
def OutsideCarriedBand (riskEngine : RiskEngine) (py : Python) (past : List (SessionEvent σ)) :
    SessionEvent σ → Prop
  | .handled row intent session =>
      ReachesLossCheck riskEngine py row intent session →
        ∀ opening, dayStart (tradingDay row.bar.timestamp) past = some opening →
          session.portfolio.pnl ∉ Set.Ico
            (min (-riskEngine.limits.maxDailyLoss)
              (opening.portfolio.pnl - riskEngine.limits.maxDailyLoss))
            (max (-riskEngine.limits.maxDailyLoss)
              (opening.portfolio.pnl - riskEngine.limits.maxDailyLoss))
  | _ => True

theorem below_both_iff {α : Type} [LinearOrder α] (value first second : α) :
    (value < first ↔ value < second) ↔ value ∉ Set.Ico (min first second) (max first second) := by
  rw [Set.mem_Ico, min_le_iff, lt_max_iff]
  rcases lt_or_ge value first with below | above
  · rcases lt_or_ge value second with below' | above'
    · simp [below, below', not_le.mpr below, not_le.mpr below']
    · simp [below, above', not_lt.mpr above']
  · rcases lt_or_ge value second with below' | above'
    · simp [above, below', not_lt.mpr above]
    · simp [above, above', not_lt.mpr above, not_lt.mpr above']

/-- A bar that is being processed was handed to the strategy, so its day has started. -/
theorem dayStart_isSome {past : List (SessionEvent σ)} {row : FeedRow}
    (opened : (rounds past).getLast? = some row) :
    ∃ opening, dayStart (tradingDay row.bar.timestamp) past = some opening := by
  obtain ⟨event, member, entered⟩ := List.mem_filterMap.mp (List.mem_of_getLast? opened)
  have found : (past.find? (opensDay (tradingDay row.bar.timestamp))).isSome = true := by
    rw [List.find?_isSome]
    refine ⟨event, member, ?_⟩
    unfold opensDay
    rw [entered, Option.any_some]
    exact decide_eq_true rfl
  obtain ⟨first, at_first⟩ := Option.isSome_iff_exists.mp found
  exact ⟨first.state, congrArg (Option.map Event.state) at_first⟩

namespace BacktestEngine

section Guarded

variable {engine : BacktestEngine σ κ} {riskEngine : RiskEngine}
  (guarded : engine.riskEngine = some riskEngine)
include guarded

/-- An intent that reaches the check is rejected there exactly when the total P&L is below the
limit. -/
theorem rejected_for_loss_iff {row : FeedRow} {intent : OrderIntent} {session : Session σ}
    (reaches : ReachesLossCheck riskEngine engine.simulatedBroker.py row intent session) :
    (∃ decision, decisionBy engine.runRiskCheck row intent session = some decision ∧
        decision.reasonCode = .dailyLossLimitBreached) ↔
      session.portfolio.pnl < -riskEngine.limits.maxDailyLoss := by
  obtain ⟨snapshot, taken, passed⟩ := reaches
  have named : riskEngine.beforeDailyLoss (engine.riskDecisionId session.handled) intent snapshot
      row.bar.timestamp session.riskState = none := by
    rw [← Option.map_eq_none_iff, anonymous_beforeDailyLoss riskEngine _ "", passed]
    rfl
  have total : totalPnl snapshot = session.portfolio.pnl := by
    obtain ⟨_, realized, unrealized⟩ := BacktestPortfolio.getSnapshot_eq taken
    unfold totalPnl BacktestPortfolio.pnl
    rw [realized, unrealized]
  have answered : decisionBy engine.runRiskCheck row intent session =
      some (riskEngine.checkOrderIntent (engine.riskDecisionId session.handled) intent snapshot
        row.bar.timestamp session.riskState).1 := by
    unfold decisionBy runRiskCheck
    rw [guarded]
    dsimp only
    rw [taken]
    rfl
  rw [← total, ← lossLimited_iff named, answered]
  constructor
  · rintro ⟨decision, same, breached⟩
    rw [Option.some.inj same]
    exact breached
  · intro breached
    exact ⟨_, rfl, breached⟩

theorem lossIsDaily_iff {past : List (SessionEvent σ)} {event : SessionEvent σ}
    (opened : event.InLast (rounds past)) :
    LossIsDaily riskEngine engine.simulatedBroker.py engine.runRiskCheck past event ↔
      OutsideCarriedBand riskEngine engine.simulatedBroker.py past event := by
  cases event with
  | entered row session => exact Iff.rfl
  | left row session => exact Iff.rfl
  | handled row intent session =>
      obtain ⟨opening, started⟩ := dayStart_isSome opened
      unfold LossIsDaily OutsideCarriedBand
      dsimp only
      rw [started]
      have shifted : session.portfolio.pnl - opening.portfolio.pnl <
            -riskEngine.limits.maxDailyLoss ↔
          session.portfolio.pnl < opening.portfolio.pnl - riskEngine.limits.maxDailyLoss := by
        constructor <;> intro below <;> linarith
      constructor
      · rintro daily reaches _ ⟨⟩
        obtain ⟨_, ⟨⟩, exact_loss⟩ := daily reaches
        rw [rejected_for_loss_iff guarded reaches, shifted] at exact_loss
        exact (below_both_iff _ _ _).mp exact_loss
      · intro outside reaches
        refine ⟨opening, rfl, ?_⟩
        rw [rejected_for_loss_iff guarded reaches, shifted]
        exact (below_both_iff _ _ _).mpr (outside reaches opening rfl)

/-- In a guarded run the limit on the loss is one of the day exactly when no intent reaches the
check with a total P&L in the band that the P&L of earlier days opens. -/
theorem daily_loss_iff (candles : List Domain.Bar) :
    Along (LossIsDaily riskEngine engine.simulatedBroker.py engine.runRiskCheck) []
        (engine.traceRows (iterBars candles)) ↔
      Along (OutsideCarriedBand riskEngine engine.simulatedBroker.py) []
        (engine.traceRows (iterBars candles)) :=
  (traceRows_inLast (iterBars candles)).congr (fun _past _event opened =>
    lossIsDaily_iff guarded opened)

end Guarded

/-! ### A loss of the day before -/

def smallLoss : RiskEngine :=
  RiskEngine.ascii
    { RiskLimits.standard with
      maxDailyLoss := 100
      maxDailyLoss_pos := hundred_pos }

def carriedEngine : BacktestEngine (List (List OrderIntent)) Unit :=
  scriptedEngine (some smallLoss)
    [[limitOrder "INFY" .buy 100], [], [limitOrder "INFY" .buy 85]]

def carriedBars : List Domain.Bar :=
  [flatBar "INFY" 0 100, flatBar "INFY" 60000000 85, flatBar "INFY" 86400000000 85]

theorem carried_loss_iff :
    Along (LossIsDaily smallLoss carriedEngine.simulatedBroker.py carriedEngine.runRiskCheck) []
        (carriedEngine.traceRows (iterBars carriedBars)) ↔
      Along (OutsideCarriedBand smallLoss carriedEngine.simulatedBroker.py) []
        (carriedEngine.traceRows (iterBars carriedBars)) := by
  have guarded : carriedEngine.riskEngine = some smallLoss := rfl
  exact daily_loss_iff guarded carriedBars

/-- The second day has lost nothing, yet its intent is rejected for the loss of the first. -/
theorem carried_loss_not_daily :
    ¬ Along (LossIsDaily smallLoss carriedEngine.simulatedBroker.py carriedEngine.runRiskCheck) []
      (carriedEngine.traceRows (iterBars carriedBars)) := by
  decide +kernel

end BacktestEngine

end TradingEngine.Backtest
