/-
`MAPullbackStrategy.on_bar`, the reference of the MA Pullback replay.

The strategy keeps one state for each symbol.  It enters at the close of the
signal bar and measures stop, target and holding days from that close.
-/

import TradingEngine.General.LotSizing
import TradingEngine.General.OrderedDict
import TradingEngine.General.RangeLoop
import TradingEngine.Strategies.Signals
import TradingEngine.WilderRsi

namespace TradingEngine.MAPullback

open Signals (OrderIntent Side)

variable {K : Type} [Field K] [LinearOrder K]

/-- `MAPullbackConfig` with what `__post_init__` checks.  A zero period divides by
zero in every run that gets past its warm-up, so the periods are positive. -/
structure Config (K : Type) where
  strategyId : String := "ma_pullback"
  capitalPerTrade : ℕ := 100000
  trendMaPeriod : ℕ := 200
  pullbackMaPeriod : ℕ := 50
  rsiPeriod : ℕ := 14
  rsiOversold : K
  stopLossPct : K
  targetPct : K
  maxHoldDays : ℤ := 20
  capital_pos : 0 < capitalPerTrade := by decide
  pullback_lt_trend : pullbackMaPeriod < trendMaPeriod := by decide
  pullback_pos : 0 < pullbackMaPeriod := by decide
  rsi_pos : 0 < rsiPeriod := by decide

structure Holding (K : Type) where
  entryTime : Timestamp
  entryQty : ℕ
  entryPrice : K
deriving DecidableEq

/-- `_SymbolState`.  The four position fields are set and cleared together. -/
structure SymbolState (K : Type) where
  indicators : RsiState K
  position : Option (Holding K)
deriving DecidableEq

def SymbolState.start : SymbolState K :=
  { indicators := RsiState.start
    position := none }

/-- `self._states`. -/
abbrev States (K : Type) := OrderedDict Ticker (SymbolState K)

namespace Config

variable (config : Config K)

def exitReason (bar : Signals.Bar K) (held : Holding K) : Option String :=
  let stopPrice := held.entryPrice * (1 - config.stopLossPct / (100 : ℕ))
  let targetPrice := held.entryPrice * (1 + config.targetPct / (100 : ℕ))
  if bar.close ≤ stopPrice then some "pullback_stop_loss"
  else if targetPrice ≤ bar.close then some "pullback_target"
  else if config.maxHoldDays ≤ bar.timestamp.daysSince held.entryTime then
    some "pullback_time_exit"
  else none

def isEntry (closePrice : K) (indicators : RsiState K) : Bool :=
  indicators.sma config.trendMaPeriod < closePrice &&
    closePrice ≤ indicators.sma config.pullbackMaPeriod &&
    indicators.rsi ≤ config.rsiOversold

def createIntent (bar : Signals.Bar K) (side : Side) (quantity : ℕ) (reason : String) :
    OrderIntent :=
  Signals.marketIntent config.strategyId bar.symbol side quantity bar.exchange reason

def observed (bar : Signals.Bar K) (state : SymbolState K) : RsiState K :=
  state.indicators.observe config.rsiPeriod (config.trendMaPeriod + 1) bar.close

section OnBar

variable [FloorRing K]

def holdingAt (bar : Signals.Bar K) : Holding K :=
  { entryTime := bar.timestamp
    entryQty := LotSizing.units (config.capitalPerTrade : K) bar.close
    entryPrice := bar.close }

/-- `on_bar` on the state of the bar's symbol. -/
def onSymbolBar (bar : Signals.Bar K) (state : SymbolState K) :
    List OrderIntent × SymbolState K :=
  let indicators := config.observed bar state
  if indicators.closeHistory.length < config.trendMaPeriod then
    ([], { state with indicators := indicators })
  else
    match state.position with
    | some held =>
        match config.exitReason bar held with
        | some reason =>
            ([config.createIntent bar .sell held.entryQty reason],
              { indicators := indicators, position := none })
        | none => ([], { indicators := indicators, position := some held })
    | none =>
        if config.isEntry bar.close indicators then
          ([config.createIntent bar .buy (config.holdingAt bar).entryQty "pullback_entry"],
            { indicators := indicators, position := some (config.holdingAt bar) })
        else ([], { indicators := indicators, position := none })

/-- `on_bar`: a symbol without a state starts with an empty one. -/
def onBar (bar : Signals.Bar K) (states : States K) : List OrderIntent × States K :=
  let state := (states.get? bar.symbol).getD SymbolState.start
  let answer := config.onSymbolBar bar state
  (answer.1, states.insert bar.symbol answer.2)

theorem onSymbolBar_of_warmup {bar : Signals.Bar K} {state : SymbolState K}
    (warmup : (config.observed bar state).closeHistory.length < config.trendMaPeriod) :
    config.onSymbolBar bar state =
      ([], { indicators := config.observed bar state, position := state.position }) :=
  if_pos warmup

theorem onSymbolBar_of_held {bar : Signals.Bar K} {state : SymbolState K} {held : Holding K}
    (ready : ¬ (config.observed bar state).closeHistory.length < config.trendMaPeriod)
    (position : state.position = some held) :
    config.onSymbolBar bar state =
      ((config.exitReason bar held).toList.map
          (config.createIntent bar .sell held.entryQty),
        { indicators := config.observed bar state
          position := if (config.exitReason bar held).isSome then none else some held }) := by
  unfold onSymbolBar
  simp only [position]
  rw [if_neg ready]
  cases exit : config.exitReason bar held <;> rfl

theorem onSymbolBar_of_flat {bar : Signals.Bar K} {state : SymbolState K}
    (ready : ¬ (config.observed bar state).closeHistory.length < config.trendMaPeriod)
    (position : state.position = none) :
    config.onSymbolBar bar state =
      if config.isEntry bar.close (config.observed bar state) then
        ([config.createIntent bar .buy (config.holdingAt bar).entryQty "pullback_entry"],
          { indicators := config.observed bar state
            position := some (config.holdingAt bar) })
      else ([], { indicators := config.observed bar state, position := none }) := by
  unfold onSymbolBar
  simp only [position]
  rw [if_neg ready]

/-! ### A strategy fed with the bars of one symbol -/

def quote (symbol : Ticker) (exchange : String) (bar : Bar K) : Signals.Bar K :=
  { symbol := symbol
    exchange := exchange
    timestamp := bar.timestamp
    close := bar.close }

def statesAfter (symbol : Ticker) (exchange : String) (df : Frame K) (count : ℕ) :
    States K :=
  RangeLoop.loop
    (fun i states =>
      match df.bars[i]? with
      | none => states
      | some bar => (config.onBar (quote symbol exchange bar) states).2)
    OrderedDict.empty count

def intentsAt (symbol : Ticker) (exchange : String) (df : Frame K) (i : ℕ) :
    List OrderIntent :=
  match df.bars[i]? with
  | none => []
  | some bar =>
      (config.onBar (quote symbol exchange bar) (config.statesAfter symbol exchange df i)).1

def symbolStateAfter (symbol : Ticker) (exchange : String) (df : Frame K) (count : ℕ) :
    SymbolState K :=
  ((config.statesAfter symbol exchange df count).get? symbol).getD SymbolState.start

theorem symbolStateAfter_succ (symbol : Ticker) (exchange : String) (df : Frame K) {i : ℕ}
    {bar : Bar K} (found : df.bars[i]? = some bar) :
    config.symbolStateAfter symbol exchange df (i + 1) =
      (config.onSymbolBar (quote symbol exchange bar)
        (config.symbolStateAfter symbol exchange df i)).2 := by
  have next : config.statesAfter symbol exchange df (i + 1) =
      (config.onBar (quote symbol exchange bar)
        (config.statesAfter symbol exchange df i)).2 := by
    change (match df.bars[i]? with
      | none => config.statesAfter symbol exchange df i
      | some bar => (config.onBar (quote symbol exchange bar)
          (config.statesAfter symbol exchange df i)).2) = _
    rw [found]
  rw [symbolStateAfter, next]
  change (((config.statesAfter symbol exchange df i).insert symbol _).get? symbol).getD _ = _
  rw [OrderedDict.get?_insert, if_pos rfl, Option.getD_some]
  rfl

theorem intentsAt_of_getElem? (symbol : Ticker) (exchange : String) (df : Frame K) {i : ℕ}
    {bar : Bar K} (found : df.bars[i]? = some bar) :
    config.intentsAt symbol exchange df i =
      (config.onSymbolBar (quote symbol exchange bar)
        (config.symbolStateAfter symbol exchange df i)).1 := by
  unfold intentsAt
  rw [found]
  rfl

end OnBar

end Config

end TradingEngine.MAPullback
