/-
The deployed MA Pullback replay against its reference strategy.

Both see the same indicators and enter on the same bars.  They differ in what a
position is measured from: the reference takes the close and the time of the
signal bar, the replay the fill at the next bar.  The two therefore give the same
signals exactly when, on every bar on which the reference holds a position, both
measurements come to the same verdict.
-/

import TradingEngine.Scripts.MAPullbackTrader
import TradingEngine.Strategies.MAPullback

namespace TradingEngine.MAPullback

open MAPullbackTrader (Params)
open Signals (OrderIntent Side)

theorem Config.trend_pos {K : Type} (config : Config K) : 0 < config.trendMaPeriod :=
  Nat.lt_trans config.pullback_pos config.pullback_lt_trend

variable {K : Type} [Field K] [LinearOrder K] [FloorRing K]

def Config.params (config : Config K) : Params K :=
  { trendMaPeriod := config.trendMaPeriod
    pullbackMaPeriod := config.pullbackMaPeriod
    rsiPeriod := config.rsiPeriod
    rsiOversold := config.rsiOversold
    stopLossPct := config.stopLossPct
    targetPct := config.targetPct
    maxHoldDays := config.maxHoldDays
    trend_pos := config.trend_pos
    pullback_pos := config.pullback_pos
    rsi_pos := config.rsi_pos }

def reasonName : ExitReason → String
  | .stopLoss => "pullback_stop_loss"
  | .targetHit => "pullback_target"
  | .maxDaysHeld _ => "pullback_time_exit"
  | other => other.text

def signalName : Signal → Side × String
  | .entry => (.buy, "pullback_entry")
  | .exit reason => (.sell, reasonName reason)

def intentName (intent : OrderIntent) : Side × String :=
  (intent.side, intent.reason)

section

variable (config : Config K) (symbol : Ticker) (exchange : String) (df : Frame K)

/-- The signals of the replay and the intents of the strategy at bar `i` agree up
to their names. -/
def SignalsAgree (i : ℕ) : Prop :=
  (config.params.rules.signalsAt df i).map signalName =
    (config.intentsAt symbol exchange df i).map intentName

/-- The bar that signalled the position which the strategy holds before bar
`count`. -/
def heldSince : ℕ → Option ℕ
  | 0 => none
  | i + 1 =>
      match (config.symbolStateAfter symbol exchange df i).position,
          (config.symbolStateAfter symbol exchange df (i + 1)).position with
      | none, some _ => some i
      | some _, some _ => heldSince i
      | _, none => none

/-- A position signalled on `signalBar` with this fill gets the same verdict on
`bar` whether it is measured from the signal close or from the fill. -/
def SameVerdict (signalBar : Bar K) (fill : K × Timestamp) (bar : Bar K) : Prop :=
  (config.params.exitReason bar (config.params.rules.terms.positionAt fill)).map reasonName =
    config.exitReason (Config.quote symbol exchange bar)
      (config.holdingAt (Config.quote symbol exchange signalBar))

/-- If the strategy holds a position before bar `i`, the bar gives it the same
verdict from either measurement. -/
def FillsAgree (i : ℕ) : Prop :=
  ∀ s signalBar bar, heldSince config symbol exchange df i = some s →
    df.bars[s]? = some signalBar → df.bars[i]? = some bar →
      SameVerdict config symbol exchange signalBar (df.fill s signalBar) bar

/-! ### The states of both machines before a bar -/

/-- Same indicators, and either both are flat or both hold the position that one
signal bar opened. -/
structure Related (i : ℕ) : Prop where
  indicators : (config.params.rules.stateAfter df i).indicators =
    (config.symbolStateAfter symbol exchange df i).indicators
  position :
    (heldSince config symbol exchange df i = none ∧
      (config.params.rules.stateAfter df i).book.position = none ∧
      (config.symbolStateAfter symbol exchange df i).position = none) ∨
    ∃ s signalBar, heldSince config symbol exchange df i = some s ∧
      df.bars[s]? = some signalBar ∧
      (config.params.rules.stateAfter df i).book.position =
        some (config.params.rules.terms.positionAt (df.fill s signalBar)) ∧
      (config.symbolStateAfter symbol exchange df i).position =
        some (config.holdingAt (Config.quote symbol exchange signalBar)) ∧
      config.trendMaPeriod ≤
        (config.symbolStateAfter symbol exchange df i).indicators.closeHistory.length

theorem related_start : Related config symbol exchange df 0 :=
  { indicators := rfl
    position := Or.inl ⟨rfl, rfl, rfl⟩ }

omit [FloorRing K] in
theorem params_observe (i : ℕ) (bar : Bar K) (indicators : RsiState K) :
    config.params.rules.observe df i bar indicators =
      indicators.observe config.rsiPeriod (config.trendMaPeriod + 1) bar.close := by
  have larger : max config.trendMaPeriod config.pullbackMaPeriod = config.trendMaPeriod :=
    Nat.max_eq_left (Nat.le_of_lt config.pullback_lt_trend)
  change indicators.observe config.rsiPeriod
    (max config.trendMaPeriod config.pullbackMaPeriod + 1) bar.close = _
  rw [larger]

theorem heldSince_succ_of_flat {i : ℕ}
    (flat : (config.symbolStateAfter symbol exchange df (i + 1)).position = none) :
    heldSince config symbol exchange df (i + 1) = none := by
  simp only [heldSince, flat]

theorem heldSince_succ_of_entered {i : ℕ} {held : Holding K}
    (before : (config.symbolStateAfter symbol exchange df i).position = none)
    (after : (config.symbolStateAfter symbol exchange df (i + 1)).position = some held) :
    heldSince config symbol exchange df (i + 1) = some i := by
  simp only [heldSince, before, after]

theorem heldSince_succ_of_kept {i : ℕ} {earlier held : Holding K}
    (before : (config.symbolStateAfter symbol exchange df i).position = some earlier)
    (after : (config.symbolStateAfter symbol exchange df (i + 1)).position = some held) :
    heldSince config symbol exchange df (i + 1) = heldSince config symbol exchange df i := by
  simp only [heldSince, before, after]

end

section Pass

variable {config : Config K} {symbol : Ticker} {exchange : String} {df : Frame K}
variable {i : ℕ} {bar : Bar K}

theorem decide_of_related (related : Related config symbol exchange df i) (bar : Bar K) :
    config.params.rules.decide df i bar (config.params.rules.stateAfter df i) =
      config.params.actions bar (df.fill i bar)
        (config.observed (Config.quote symbol exchange bar)
          (config.symbolStateAfter symbol exchange df i))
        (config.params.rules.stateAfter df i).book.position := by
  unfold ReplayRules.decide
  rw [params_observe, related.indicators]
  rfl

theorem indicators_succ (related : Related config symbol exchange df i)
    (found : df.bars[i]? = some bar) :
    (config.params.rules.stateAfter df (i + 1)).indicators =
      config.observed (Config.quote symbol exchange bar)
        (config.symbolStateAfter symbol exchange df i) := by
  rw [ReplayRules.stateAfter_succ, ReplayRules.stepAt_of_getElem? found, params_observe,
    related.indicators]
  rfl

theorem fillsAgree_of_unheld (unheld : heldSince config symbol exchange df i = none) :
    FillsAgree config symbol exchange df i := by
  intro s signalBar bar held
  rw [unheld] at held
  contradiction

theorem related_of_flat
    (indicators : (config.params.rules.stateAfter df (i + 1)).indicators =
      (config.symbolStateAfter symbol exchange df (i + 1)).indicators)
    (replayFlat : (config.params.rules.stateAfter df (i + 1)).book.position = none)
    (strategyFlat : (config.symbolStateAfter symbol exchange df (i + 1)).position = none) :
    Related config symbol exchange df (i + 1) where
  indicators := indicators
  position := Or.inl ⟨heldSince_succ_of_flat config symbol exchange df strategyFlat,
    replayFlat, strategyFlat⟩

theorem pass_of_warmup (related : Related config symbol exchange df i)
    (found : df.bars[i]? = some bar)
    (warmup : (config.observed (Config.quote symbol exchange bar)
      (config.symbolStateAfter symbol exchange df i)).closeHistory.length <
        config.trendMaPeriod) :
    SignalsAgree config symbol exchange df i ∧ FillsAgree config symbol exchange df i ∧
      Related config symbol exchange df (i + 1) := by
  have flat : heldSince config symbol exchange df i = none ∧
      (config.params.rules.stateAfter df i).book.position = none ∧
      (config.symbolStateAfter symbol exchange df i).position = none := by
    rcases related.position with flat | ⟨_, _, _, _, _, _, ready⟩
    · exact flat
    · have grows := RsiState.length_le_observe config.rsiPeriod (config.trendMaPeriod + 1)
        bar.close (config.symbolStateAfter symbol exchange df i).indicators
      exact absurd warmup (Nat.not_lt_of_le (Nat.le_trans ready grows))
  have silent : config.params.rules.decide df i bar (config.params.rules.stateAfter df i) =
      [] := by
    rw [decide_of_related related, config.params.actions_of_warmup warmup]
  have next := config.symbolStateAfter_succ symbol exchange df found
  rw [config.onSymbolBar_of_warmup warmup] at next
  refine ⟨?_, fillsAgree_of_unheld flat.1, related_of_flat ?_ ?_ ?_⟩
  · unfold SignalsAgree
    rw [ReplayRules.signalsAt_of_getElem? found, silent,
      config.intentsAt_of_getElem? symbol exchange df found,
      config.onSymbolBar_of_warmup warmup]
    rfl
  · rw [indicators_succ related found, next]
  · rw [ReplayRules.stateAfter_succ, ReplayRules.stepAt_of_getElem? found, silent]
    exact flat.2.1
  · rw [next]
    exact flat.2.2

theorem pass_of_flat (related : Related config symbol exchange df i)
    (found : df.bars[i]? = some bar)
    (ready : ¬ (config.observed (Config.quote symbol exchange bar)
      (config.symbolStateAfter symbol exchange df i)).closeHistory.length <
        config.trendMaPeriod)
    (flat : heldSince config symbol exchange df i = none ∧
      (config.params.rules.stateAfter df i).book.position = none ∧
      (config.symbolStateAfter symbol exchange df i).position = none) :
    SignalsAgree config symbol exchange df i ∧ FillsAgree config symbol exchange df i ∧
      Related config symbol exchange df (i + 1) := by
  obtain ⟨unheld, replayFlat, strategyFlat⟩ := flat
  have decided := decide_of_related related bar
  rw [replayFlat, config.params.actions_of_flat ready] at decided
  have answered := config.onSymbolBar_of_flat ready strategyFlat
  have next := config.symbolStateAfter_succ symbol exchange df found
  have intents := config.intentsAt_of_getElem? symbol exchange df found
  rw [answered] at next intents
  have noVerdict := fillsAgree_of_unheld unheld
  have observed := indicators_succ related found
  have step : config.params.rules.stepAt df i (config.params.rules.stateAfter df i) = _ :=
    ReplayRules.stepAt_of_getElem? found _
  have sameTest : config.params.isEntry bar
      (config.observed (Config.quote symbol exchange bar)
        (config.symbolStateAfter symbol exchange df i)) =
      config.isEntry (Config.quote symbol exchange bar).close
        (config.observed (Config.quote symbol exchange bar)
          (config.symbolStateAfter symbol exchange df i)) := rfl
  rw [sameTest] at decided
  by_cases entry : config.isEntry (Config.quote symbol exchange bar).close
      (config.observed (Config.quote symbol exchange bar)
        (config.symbolStateAfter symbol exchange df i)) = true
  · rw [if_pos entry] at decided next intents
    refine ⟨?_, noVerdict, ?_, Or.inr ⟨i, bar, ?_, found, ?_, ?_, ?_⟩⟩
    · unfold SignalsAgree
      rw [ReplayRules.signalsAt_of_getElem? found, decided, intents]
      rfl
    · rw [observed, next]
    · apply heldSince_succ_of_entered config symbol exchange df strategyFlat
      rw [next]
    · rw [ReplayRules.stateAfter_succ, step, decided]
      rfl
    · rw [next]
    · rw [next]
      exact Nat.le_of_not_lt ready
  · rw [if_neg entry] at decided next intents
    refine ⟨?_, noVerdict, related_of_flat ?_ ?_ ?_⟩
    · unfold SignalsAgree
      rw [ReplayRules.signalsAt_of_getElem? found, decided, intents]
      rfl
    · rw [observed, next]
    · rw [ReplayRules.stateAfter_succ, step, decided]
      exact replayFlat
    · rw [next]

private theorem sells_inj {left right : Option String} :
    left.toList.map (fun reason => (Side.sell, reason)) =
        right.toList.map (fun reason => (Side.sell, reason)) ↔ left = right := by
  cases left <;> cases right <;> simp

theorem fillsAgree_iff_of_held {s : ℕ} {signalBar : Bar K} (found : df.bars[i]? = some bar)
    (heldAt : heldSince config symbol exchange df i = some s)
    (signalled : df.bars[s]? = some signalBar) :
    FillsAgree config symbol exchange df i ↔
      SameVerdict config symbol exchange signalBar (df.fill s signalBar) bar := by
  constructor
  · exact fun fills => fills s signalBar bar heldAt signalled found
  · intro verdict s' signalBar' bar' heldAt' signalled' found'
    obtain rfl := Option.some.inj (heldAt.symm.trans heldAt')
    obtain rfl := Option.some.inj (signalled.symm.trans signalled')
    obtain rfl := Option.some.inj (found.symm.trans found')
    exact verdict

/-- Two machines that hold the same position give the same signal exactly when
both measurements of it come to the same verdict, and then they stay together. -/
theorem pass_of_held {s : ℕ} {signalBar : Bar K}
    (related : Related config symbol exchange df i) (found : df.bars[i]? = some bar)
    (ready : ¬ (config.observed (Config.quote symbol exchange bar)
      (config.symbolStateAfter symbol exchange df i)).closeHistory.length <
        config.trendMaPeriod)
    (heldAt : heldSince config symbol exchange df i = some s)
    (signalled : df.bars[s]? = some signalBar)
    (replayHeld : (config.params.rules.stateAfter df i).book.position =
      some (config.params.rules.terms.positionAt (df.fill s signalBar)))
    (strategyHeld : (config.symbolStateAfter symbol exchange df i).position =
      some (config.holdingAt (Config.quote symbol exchange signalBar))) :
    (SignalsAgree config symbol exchange df i ↔ FillsAgree config symbol exchange df i) ∧
      (FillsAgree config symbol exchange df i →
        Related config symbol exchange df (i + 1)) := by
  have decided := decide_of_related related bar
  rw [replayHeld, config.params.actions_of_held ready] at decided
  have answered := config.onSymbolBar_of_held ready strategyHeld
  have next := config.symbolStateAfter_succ symbol exchange df found
  have intents := config.intentsAt_of_getElem? symbol exchange df found
  rw [answered] at next intents
  have observed := indicators_succ related found
  have step : config.params.rules.stepAt df i (config.params.rules.stateAfter df i) = _ :=
    ReplayRules.stepAt_of_getElem? found _
  have oneBar := fillsAgree_iff_of_held found heldAt signalled
  refine ⟨?_, ?_⟩
  · rw [oneBar, SignalsAgree, ReplayRules.signalsAt_of_getElem? found, decided, intents,
      SameVerdict, ← sells_inj, Option.toList_map, List.map_map, List.map_map, List.map_map,
      List.map_map]
    rfl
  · intro fills
    have verdict := oneBar.mp fills
    unfold SameVerdict at verdict
    cases exit : config.exitReason (Config.quote symbol exchange bar)
        (config.holdingAt (Config.quote symbol exchange signalBar)) with
    | none =>
        rw [exit] at verdict next
        have stays := Option.map_eq_none_iff.mp verdict
        rw [stays] at decided
        refine ⟨by rw [observed, next], Or.inr ⟨s, signalBar, ?_, signalled, ?_, ?_, ?_⟩⟩
        · rw [heldSince_succ_of_kept config symbol exchange df strategyHeld (by rw [next]; rfl)]
          exact heldAt
        · rw [ReplayRules.stateAfter_succ, step, decided]
          exact replayHeld
        · rw [next]
          rfl
        · rw [next]
          exact Nat.le_of_not_lt ready
    | some name =>
        rw [exit] at verdict next
        obtain ⟨reason, closes, _⟩ := Option.map_eq_some_iff.mp verdict
        rw [closes] at decided
        refine related_of_flat ?_ ?_ ?_
        · rw [observed, next]
        · rw [ReplayRules.stateAfter_succ, step, decided]
          exact Book.closeTrade_position _ _ _ _ _
        · rw [next]
          rfl

theorem pass (related : Related config symbol exchange df i) (inside : i < df.length) :
    (SignalsAgree config symbol exchange df i ↔ FillsAgree config symbol exchange df i) ∧
      (FillsAgree config symbol exchange df i →
        Related config symbol exchange df (i + 1)) := by
  have found : df.bars[i]? = some df.bars[i] := List.getElem?_eq_getElem inside
  by_cases warmup : (config.observed (Config.quote symbol exchange df.bars[i])
      (config.symbolStateAfter symbol exchange df i)).closeHistory.length <
        config.trendMaPeriod
  · obtain ⟨agree, fills, next⟩ := pass_of_warmup related found warmup
    exact ⟨iff_of_true agree fills, fun _ => next⟩
  · rcases related.position with flat | ⟨s, signalBar, heldAt, signalled, replay, strategy, _⟩
    · obtain ⟨agree, fills, next⟩ := pass_of_flat related found warmup flat
      exact ⟨iff_of_true agree fills, fun _ => next⟩
    · exact pass_of_held related found warmup heldAt signalled replay strategy

end Pass

/-- The replay gives the signals of the strategy on every bar exactly when, on
every bar on which the strategy holds a position, measuring it from the signal
close and from the next open come to the same verdict. -/
theorem signalsAgree_iff_fillsAgree (config : Config K) (symbol : Ticker)
    (exchange : String) (df : Frame K) :
    (∀ i, i < df.length → SignalsAgree config symbol exchange df i) ↔
      (∀ i, i < df.length → FillsAgree config symbol exchange df i) :=
  RangeLoop.lockstep_iff (Related config symbol exchange df)
    (SignalsAgree config symbol exchange df) (FillsAgree config symbol exchange df) df.length
    (related_start config symbol exchange df)
    (fun _i inside related => (pass related inside).1)
    (fun _i inside related clean => (pass related inside).2 clean)

instance (config : Config K) (symbol : Ticker) (exchange : String) (df : Frame K) (i : ℕ) :
    Decidable (SignalsAgree config symbol exchange df i) :=
  inferInstanceAs (Decidable (_ = _))

/-- A signal at a close of 110 that is filled at 130: the close of 120 is below the
stop of the fill, and neither at the stop nor at the target of the signal close. -/
def gapUp : Frame ℚ :=
  { bars :=
      [{ timestamp := ⟨1780272000⟩, openPrice := 100, high := 100, low := 100, close := 100
         open_pos := hundred_pos, close_pos := hundred_pos },
        { timestamp := ⟨1780358400⟩, openPrice := 110, high := 110, low := 110, close := 110
          open_pos := by norm_num, close_pos := by norm_num },
        { timestamp := ⟨1780444800⟩, openPrice := 130, high := 130, low := 120, close := 120
          open_pos := by norm_num, close_pos := by norm_num }]
    nonempty := List.cons_ne_nil _ _ }

def shortTrend : Config ℚ :=
  { capitalPerTrade := 10000
    trendMaPeriod := 2
    pullbackMaPeriod := 1
    rsiOversold := 100
    stopLossPct := 5
    targetPct := 10 }

theorem gapUp_not_signalsAgree :
    ¬ ∀ i, i < gapUp.length → SignalsAgree shortTrend "RELIANCE" "NSE" gapUp i := by
  intro agree
  have apart : ¬ SignalsAgree shortTrend "RELIANCE" "NSE" gapUp 2 := by decide +kernel
  exact apart (agree 2 (by decide))

end TradingEngine.MAPullback
