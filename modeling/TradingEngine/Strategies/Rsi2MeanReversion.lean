/-
`RSI2MeanReversionStrategy`.

The close of a bar may give a signal, which is kept as a pending flag; the next bar of the
symbol executes it before it looks for a signal of its own.
-/

import TradingEngine.Strategies.Swing
import TradingEngine.WilderRsi

namespace TradingEngine.Rsi2MeanReversion

open Domain Swing
open Intraday (Intent)
open Signals (Side)

/-- `RSI2Config` with what `__post_init__` checks. -/
structure Config where
  strategyId : String := "rsi2_mean_reversion"
  capitalPerTrade : ℤ := 100000
  trendMaPeriod : ℕ := 200
  rsiPeriod : ℕ := 2
  rsiEntryThreshold : ℚ := 10
  rsiExitThreshold : ℚ := 70
  stopLossPct : ℚ := 5
  maxHoldDays : ℤ := 10
  capital_pos : 0 < capitalPerTrade := by decide
  one_le_rsi : 1 ≤ rsiPeriod := by decide
  rsi_lt_trend : rsiPeriod < trendMaPeriod := by decide

/-- `_SymbolState`.  A pending sale is kept with its reason. -/
structure SymbolState where
  indicators : RsiState ℚ
  position : Option Holding
  pendingBuy : Bool
  pendingSell : Option String

def SymbolState.start : SymbolState :=
  { indicators := RsiState.start
    position := none
    pendingBuy := false
    pendingSell := none }

/-- What the close of a bar asks for on the next one. -/
inductive Signal where
  | buy
  | sell (reason : String)
deriving DecidableEq

/-- The flags with the one of a signal set. -/
def SymbolState.pend (state : SymbolState) : Option Signal → SymbolState
  | none => state
  | some .buy => { state with pendingBuy := true }
  | some (.sell reason) => { state with pendingSell := some reason }

namespace Config

variable (config : Config)

def createIntent (bar : Domain.Bar) (side : Side) (quantity : ℤ) (quantity_pos : 0 < quantity)
    (reason : String) : Intent :=
  Swing.createIntent config.strategyId bar side quantity quantity_pos reason

/-- The pending order of the previous bar.  A sale without a position has no quantity, which
an intent rejects. -/
def executePending (bar : Domain.Bar) (state : SymbolState) :
    Except EngineError (List Intent × SymbolState) :=
  match state.pendingSell with
  | some reason =>
      match state.position with
      | some held =>
          .ok ([config.createIntent bar .sell held.entryQty held.entryQty_pos reason],
            { state with
              position := none
              pendingSell := none })
      | none => .error (.orderValidation "OrderIntent quantity must be positive, got 0")
  | none =>
      if state.pendingBuy then
        if bar.close = 0 then .error divisionByZero
        else
          .ok ([config.createIntent bar .buy (quantityFor config.capitalPerTrade bar.close)
              (quantityFor_pos _ _) "rsi2_entry"],
            { state with
              position := some (holdingAt config.capitalPerTrade bar)
              pendingBuy := false })
      else .ok ([], state)

/-- The averages and the history with the close of a bar. -/
def observe (bar : Domain.Bar) (state : SymbolState) : SymbolState :=
  { state with
    indicators :=
      state.indicators.observe config.rsiPeriod (config.trendMaPeriod + 1) bar.close }

def exitReason (bar : Domain.Bar) (indicators : RsiState ℚ) (held : Holding) : Option String :=
  if bar.close ≤ stopPrice config.stopLossPct held then some "rsi2_stop_loss"
  else if config.rsiExitThreshold ≤ indicators.rsi then some "rsi2_rsi_exit"
  else if config.maxHoldDays ≤ daysHeld bar held then some "rsi2_time_exit"
  else none

def signal (bar : Domain.Bar) (state : SymbolState) : Option Signal :=
  if state.indicators.closeHistory.length < config.trendMaPeriod then none
  else
    match state.position with
    | some held => (config.exitReason bar state.indicators held).map Signal.sell
    | none =>
        if state.indicators.sma config.trendMaPeriod < bar.close ∧
            state.indicators.rsi < config.rsiEntryThreshold then
          some .buy
        else none

/-- `on_bar` on the state of the bar's symbol.  A call that raises does so before it changes
the state. -/
def onSymbolBar (bar : Domain.Bar) (state : SymbolState) : Answer × SymbolState :=
  match config.executePending bar state with
  | .error raised => (.error raised, state)
  | .ok (intents, executed) =>
      let observed := config.observe bar executed
      (.ok intents, observed.pend (config.signal bar observed))

def machine : EventMachine Domain.Bar SymbolState Answer :=
  { start := SymbolState.start
    step := config.onSymbolBar }

def strategy : EventMachine Domain.Bar (OrderedDict String SymbolState) Answer :=
  config.machine.keyed Domain.Bar.symbol

end Config

end TradingEngine.Rsi2MeanReversion
