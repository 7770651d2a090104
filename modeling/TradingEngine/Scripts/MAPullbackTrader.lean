/-
`run_ma_pullback_trader.replay_symbol`.

Stop, target and holding days are measured from the fill, which is the next
bar's open; a position that is due is closed at the same kind of fill, and the
bar of an exit never opens a position.
-/

import TradingEngine.Scripts.ReplayLoop
import TradingEngine.WilderRsi

namespace TradingEngine.MAPullbackTrader

variable {K : Type} [Field K] [LinearOrder K]

/-- The parameters of one symbol.  A zero period divides by zero in every replay
that gets past its warm-up, so the periods are positive. -/
structure Params (K : Type) where
  trendMaPeriod : ℕ
  pullbackMaPeriod : ℕ
  rsiPeriod : ℕ := 14
  rsiOversold : K
  stopLossPct : K
  targetPct : K
  maxHoldDays : ℤ
  trend_pos : 0 < trendMaPeriod := by decide
  pullback_pos : 0 < pullbackMaPeriod := by decide
  rsi_pos : 0 < rsiPeriod := by decide

namespace Params

variable (params : Params K)

def exitReason (bar : Bar K) (position : Position K) : Option ExitReason :=
  if bar.close ≤ position.stopPrice then some .stopLoss
  else if position.targetPrice.any (fun target => target ≤ bar.close) then some .targetHit
  else if params.maxHoldDays ≤ bar.timestamp.daysSince position.entryDate then
    some (.maxDaysHeld params.maxHoldDays)
  else none

def isEntry (bar : Bar K) (indicators : RsiState K) : Bool :=
  indicators.sma params.trendMaPeriod < bar.close &&
    bar.close ≤ indicators.sma params.pullbackMaPeriod &&
    indicators.rsi ≤ params.rsiOversold

def actions (bar : Bar K) (fill : K × Timestamp) (indicators : RsiState K)
    (position : Option (Position K)) : List (Action K) :=
  if indicators.closeHistory.length < params.trendMaPeriod then []
  else
    match position with
    | some held =>
        match params.exitReason bar held with
        | some reason => [.close fill.1 fill.2 reason]
        | none => []
    | none => if params.isEntry bar indicators then [.enter] else []

theorem actions_of_warmup {indicators : RsiState K}
    (warmup : indicators.closeHistory.length < params.trendMaPeriod) (bar : Bar K)
    (fill : K × Timestamp) (position : Option (Position K)) :
    params.actions bar fill indicators position = [] :=
  if_pos warmup

theorem actions_of_held {indicators : RsiState K}
    (ready : ¬ indicators.closeHistory.length < params.trendMaPeriod) (bar : Bar K)
    (fill : K × Timestamp) (held : Position K) :
    params.actions bar fill indicators (some held) =
      (params.exitReason bar held).toList.map (Action.close fill.1 fill.2) := by
  unfold actions
  rw [if_neg ready]
  cases exit : params.exitReason bar held <;> simp [exit]

theorem actions_of_flat {indicators : RsiState K}
    (ready : ¬ indicators.closeHistory.length < params.trendMaPeriod) (bar : Bar K)
    (fill : K × Timestamp) :
    params.actions bar fill indicators none =
      if params.isEntry bar indicators then [.enter] else [] :=
  if_neg ready

def rules : ReplayRules (RsiState K) K :=
  { initial := RsiState.start
    observe := fun _df _i bar =>
      RsiState.observe params.rsiPeriod
        (max params.trendMaPeriod params.pullbackMaPeriod + 1) bar.close
    actions := params.actions
    terms := { stopLossPct := params.stopLossPct, targetPct := some params.targetPct } }

end Params

def replaySymbol [FloorRing K] (df : Frame K) (params : Params K) : ReplayResult K :=
  params.rules.replay df params.maxHoldDays

end TradingEngine.MAPullbackTrader
