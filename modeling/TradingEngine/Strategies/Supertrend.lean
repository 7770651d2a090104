/-
`SupertrendStrategy`.

The indicator is that of the deployed replay, read from the bars that the engines hand over.
A bar persists its bands and its trend after it has traded, so an entry that cannot be sized
leaves the previous ones, with `bands_ready` set.
-/

import TradingEngine.Scripts.SupertrendTrader
import TradingEngine.Strategies.Swing

namespace TradingEngine.Supertrend

open Domain Swing
open Intraday (Intent)
open Signals (Side)
open SupertrendTrader (Atr Bands Flip Trend)

/-- `SupertrendConfig` with what `__post_init__` checks. -/
structure Config where
  strategyId : String := "supertrend"
  capitalPerTrade : ℤ := 100000
  atrPeriod : ℕ := 14
  multiplier : ℚ := 3
  stopLossPct : ℚ := 8
  maxHoldDays : ℤ := 60
  capital_pos : 0 < capitalPerTrade := by decide
  two_le_atr : 2 ≤ atrPeriod := by decide
  multiplier_pos : 0 < multiplier := by norm_num

/-- `_SymbolState`.  `bands` are `prev_final_upper` and `prev_final_lower`, absent while these
have their initial values. -/
structure SymbolState where
  closes : List ℚ
  atr : Atr ℚ
  bandsReady : Bool
  bands : Option (Bands ℚ)
  trend : Trend
  position : Option Holding

def SymbolState.start : SymbolState :=
  { closes := []
    atr := { trBuffer := [], atr := 0, atrSeeded := false }
    bandsReady := false
    bands := none
    trend := .undefined
    position := none }

def trueRange (bar : Domain.Bar) : Option ℚ → ℚ
  | none => bar.high - bar.low
  | some prevClose =>
      max (max (bar.high - bar.low) |bar.high - prevClose|) |bar.low - prevClose|

/-- The ratchet from the initial values: an infinite upper band and a lower band of zero. -/
def bandsFromInitial (basic : Bands ℚ) (prevClose : ℚ) : Bands ℚ :=
  { upper := basic.upper
    lower := if 0 < basic.lower ∨ prevClose < 0 then basic.lower else 0 }

def finalBands (basic : Bands ℚ) (prevClose : ℚ) (state : SymbolState) : Bands ℚ :=
  match state.bandsReady, state.bands with
  | false, _ => basic
  | true, none => bandsFromInitial basic prevClose
  | true, some previous => SupertrendTrader.Params.finalBands basic prevClose (some previous)

def newTrend (close : ℚ) (bands : Bands ℚ) (prevTrend : Trend) : Trend :=
  if bands.upper < close then .bullish
  else if close < bands.lower then .bearish
  else prevTrend

namespace Config

variable (config : Config)

def createIntent (bar : Domain.Bar) (side : Side) (quantity : ℤ) (quantity_pos : 0 < quantity)
    (reason : String) : Intent :=
  Swing.createIntent config.strategyId bar side quantity quantity_pos reason

def basicBands (bar : Domain.Bar) (atr : ℚ) : Bands ℚ :=
  let hl2 := (bar.high + bar.low) / 2
  { upper := hl2 + config.multiplier * atr
    lower := hl2 - config.multiplier * atr }

def exitReason (bar : Domain.Bar) (flip : Flip) (held : Holding) : Option String :=
  if flip.isBearish then some "supertrend_bearish_flip"
  else if bar.close ≤ stopPrice config.stopLossPct held then some "supertrend_stop_loss"
  else if config.maxHoldDays ≤ daysHeld bar held then some "supertrend_time_exit"
  else none

def trade (bar : Domain.Bar) (flip : Flip) :
    Option Holding → Except EngineError (List Intent × Option Holding)
  | some held =>
      match config.exitReason bar flip held with
      | some reason =>
          .ok ([config.createIntent bar .sell held.entryQty held.entryQty_pos reason], none)
      | none => .ok ([], some held)
  | none =>
      if flip.isBullish then
        if bar.close = 0 then .error divisionByZero
        else
          .ok ([config.createIntent bar .buy (quantityFor config.capitalPerTrade bar.close)
              (quantityFor_pos _ _) "supertrend_bullish_flip"],
            some (holdingAt config.capitalPerTrade bar))
      else .ok ([], none)

/-- The average true range and the closes with a bar. -/
def observe (bar : Domain.Bar) (state : SymbolState) : SymbolState :=
  { state with
    closes := state.closes ++ [bar.close]
    atr := state.atr.observe config.atrPeriod (trueRange bar state.closes.getLast?) }

/-- The final bands of a bar, absent before the average is seeded and on the first bar. -/
def bandsOf (bar : Domain.Bar) (state : SymbolState) : Option (Bands ℚ) :=
  let seen := config.observe bar state
  match seen.atr.atrSeeded, state.closes.getLast? with
  | true, some prevClose =>
      some (finalBands (config.basicBands bar seen.atr.atr) prevClose state)
  | _, _ => none

/-- `on_bar` on the state of the bar's symbol. -/
def onSymbolBar (bar : Domain.Bar) (state : SymbolState) : Answer × SymbolState :=
  let seen := config.observe bar state
  match config.bandsOf bar state with
  | none => (.ok [], seen)
  | some bands =>
      let trend := newTrend bar.close bands state.trend
      match config.trade bar { prevTrend := state.trend, newTrend := trend } state.position with
      | .error raised => (.error raised, { seen with bandsReady := true })
      | .ok (intents, position) =>
          (.ok intents,
            { seen with
              bandsReady := true
              bands := some bands
              trend := trend
              position := position })

def machine : EventMachine Domain.Bar SymbolState Answer :=
  { start := SymbolState.start
    step := config.onSymbolBar }

def strategy : EventMachine Domain.Bar (OrderedDict String SymbolState) Answer :=
  config.machine.keyed Domain.Bar.symbol

variable {config} {bar : Domain.Bar} {state : SymbolState}

/-! ### What a bar does -/

theorem exitReason_of_bearish {flip : Flip} (bearish : flip.isBearish = true) (held : Holding) :
    config.exitReason bar flip held = some "supertrend_bearish_flip" :=
  if_pos bearish

/-- A bar trades nothing, sells what is held, or buys on a bullish flip while flat. -/
inductive Traded (config : Config) (bar : Domain.Bar) (flip : Flip) :
    Option Holding → List Intent → Option Holding → Prop where
  | nothing (position : Option Holding)
      (stays : ∀ held, position = some held → flip.isBearish = false) :
      Traded config bar flip position [] position
  | exit (held : Holding) (reason : String) : Traded config bar flip (some held)
      [config.createIntent bar .sell held.entryQty held.entryQty_pos reason] none
  | entry (flips : flip.isBullish = true) : Traded config bar flip none
      [config.createIntent bar .buy (quantityFor config.capitalPerTrade bar.close)
        (quantityFor_pos _ _) "supertrend_bullish_flip"]
      (some (holdingAt config.capitalPerTrade bar))

theorem traded_of_ok {flip : Flip} {position after : Option Holding} {intents : List Intent}
    (done : config.trade bar flip position = .ok (intents, after)) :
    Traded config bar flip position intents after := by
  cases position with
  | some held =>
      unfold trade at done
      dsimp only at done
      cases exiting : config.exitReason bar flip held with
      | some reason =>
          rw [exiting] at done
          cases done
          exact .exit held reason
      | none =>
          rw [exiting] at done
          cases done
          refine .nothing _ (fun _ _ => Bool.eq_false_of_not_eq_true (fun bearish => ?_))
          exact absurd ((exitReason_of_bearish bearish held).symm.trans exiting)
            (Option.some_ne_none _)
  | none =>
      unfold trade at done
      dsimp only at done
      split_ifs at done with flips worthless
      · cases done
        exact .entry flips
      · cases done
        exact .nothing none (fun held same => absurd same.symm (Option.some_ne_none held))

/-- A call observes the bar; it may raise before it persists its bands, and otherwise it
persists what it has computed and traded. -/
theorem onSymbolBar_cases (config : Config) (bar : Domain.Bar) (state : SymbolState) :
    (config.bandsOf bar state = none ∧
        config.onSymbolBar bar state = (.ok [], config.observe bar state)) ∨
      (∃ raised, config.onSymbolBar bar state =
        (.error raised, { config.observe bar state with bandsReady := true })) ∨
      ∃ bands intents position,
        config.bandsOf bar state = some bands ∧
        Traded config bar
          { prevTrend := state.trend, newTrend := newTrend bar.close bands state.trend }
          state.position intents position ∧
        config.onSymbolBar bar state = (.ok intents,
          { config.observe bar state with
            bandsReady := true
            bands := some bands
            trend := newTrend bar.close bands state.trend
            position := position }) := by
  unfold onSymbolBar
  cases found : config.bandsOf bar state with
  | none => exact Or.inl ⟨rfl, rfl⟩
  | some bands =>
      refine Or.inr ?_
      cases done : config.trade bar
          { prevTrend := state.trend, newTrend := newTrend bar.close bands state.trend }
          state.position with
      | error raised =>
          dsimp only
          rw [done]
          exact Or.inl ⟨raised, rfl⟩
      | ok pair =>
          dsimp only
          rw [done]
          exact Or.inr ⟨bands, pair.1, pair.2, rfl, traded_of_ok done, rfl⟩

end Config

end TradingEngine.Supertrend
