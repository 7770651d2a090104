/-
`run_supertrend_trader.replay_symbol`.

Wilder's ATR is seeded from the first true ranges, the final bands ratchet, and
the trend flips when the close leaves them.  The entry test follows the exit
test on the same bar.
-/

import TradingEngine.Scripts.ReplayLoop

namespace TradingEngine.SupertrendTrader

variable {K : Type} [Field K] [LinearOrder K]

structure Params (K : Type) where
  atrPeriod : ℕ
  multiplier : K
  stopLossPct : K
  maxHoldDays : ℤ

inductive Trend where
  | undefined
  | bullish
  | bearish
deriving DecidableEq

structure Atr (K : Type) where
  trBuffer : List K
  atr : K
  atrSeeded : Bool

structure Bands (K : Type) where
  upper : K
  lower : K

structure Flip where
  prevTrend : Trend
  newTrend : Trend
deriving DecidableEq

def Flip.isBullish (flip : Flip) : Bool :=
  flip.newTrend = .bullish && flip.prevTrend ≠ .bullish

def Flip.isBearish (flip : Flip) : Bool :=
  flip.newTrend = .bearish && flip.prevTrend = .bullish

/-- Indicator state.  `bands` is absent until the first bar that computes them,
`flip` is absent on a bar that the loop skips. -/
structure Indicators (K : Type) where
  atr : Atr K
  bands : Option (Bands K)
  trend : Trend
  flip : Option Flip

def Indicators.start : Indicators K :=
  { atr := { trBuffer := [], atr := 0, atrSeeded := false }
    bands := none
    trend := .undefined
    flip := none }

/-- `closes[i - 1]`, absent on the first bar. -/
def prevClose (df : Frame K) : ℕ → Option K
  | 0 => none
  | i + 1 => (df.bars[i]?).map Bar.close

def trueRange (bar : Bar K) : Option K → K
  | none => bar.high - bar.low
  | some prevClose =>
      max (max (bar.high - bar.low) |bar.high - prevClose|) |bar.low - prevClose|

def Atr.observe (atrPeriod : ℕ) (tr : K) (state : Atr K) : Atr K :=
  if state.atrSeeded then
    { state with atr := (state.atr * (atrPeriod - 1) + tr) / atrPeriod }
  else
    let trBuffer := state.trBuffer ++ [tr]
    if trBuffer.length = atrPeriod then
      { trBuffer := trBuffer
        atr := trBuffer.sum / atrPeriod
        atrSeeded := true }
    else { state with trBuffer := trBuffer }

namespace Params

variable (params : Params K)

def basicBands (bar : Bar K) (atr : K) : Bands K :=
  let hl2 := (bar.high + bar.low) / (2 : ℕ)
  { upper := hl2 + params.multiplier * atr
    lower := hl2 - params.multiplier * atr }

/-- The ratchet: a band moves only towards the price, unless the previous close
broke through it. -/
def finalBands (basic : Bands K) (prevClose : K) : Option (Bands K) → Bands K
  | none => basic
  | some previous =>
      { upper :=
          if basic.upper < previous.upper ∨ previous.upper < prevClose then basic.upper
          else previous.upper
        lower :=
          if previous.lower < basic.lower ∨ prevClose < previous.lower then basic.lower
          else previous.lower }

def newTrend (bar : Bar K) (bands : Bands K) (prevTrend : Trend) : Trend :=
  if bands.upper < bar.close then .bullish
  else if bar.close < bands.lower then .bearish
  else prevTrend

def observe (df : Frame K) (i : ℕ) (bar : Bar K) (state : Indicators K) : Indicators K :=
  let previous := prevClose df i
  let atr := state.atr.observe params.atrPeriod (trueRange bar previous)
  match atr.atrSeeded, previous with
  | true, some previousClose =>
      let bands := finalBands (params.basicBands bar atr.atr) previousClose state.bands
      let trend := newTrend bar bands state.trend
      { atr := atr
        bands := some bands
        trend := trend
        flip := some { prevTrend := state.trend, newTrend := trend } }
  | _, _ => { state with atr := atr, flip := none }

def exitReason (bar : Bar K) (flip : Flip) (position : Position K) : Option ExitReason :=
  if flip.isBearish then some .bearishFlip
  else if bar.close ≤ position.stopPrice then some .stopLoss
  else if params.maxHoldDays ≤ bar.timestamp.daysSince position.entryDate then
    some (.maxDaysHeld params.maxHoldDays)
  else none

def actions (bar : Bar K) (fill : K × Timestamp) (indicators : Indicators K)
    (position : Option (Position K)) : List (Action K) :=
  match indicators.flip with
  | none => []
  | some flip =>
      let entry := if flip.isBullish then [Action.enter] else []
      match position with
      | some held =>
          match params.exitReason bar flip held with
          | some reason => .close fill.1 fill.2 reason :: entry
          | none => []
      | none => entry

theorem actions_of_skipped {indicators : Indicators K} (skipped : indicators.flip = none)
    (bar : Bar K) (fill : K × Timestamp) (position : Option (Position K)) :
    params.actions bar fill indicators position = [] := by
  unfold actions
  rw [skipped]

theorem actions_of_held {indicators : Indicators K} {flip : Flip}
    (ready : indicators.flip = some flip) (bar : Bar K) (fill : K × Timestamp)
    (held : Position K) :
    params.actions bar fill indicators (some held) =
      (params.exitReason bar flip held).elim []
        (fun reason => .close fill.1 fill.2 reason ::
          if flip.isBullish then [.enter] else []) := by
  unfold actions
  rw [ready]
  cases exit : params.exitReason bar flip held <;> simp [exit]

theorem actions_of_flat {indicators : Indicators K} {flip : Flip}
    (ready : indicators.flip = some flip) (bar : Bar K) (fill : K × Timestamp) :
    params.actions bar fill indicators none =
      if flip.isBullish then [.enter] else [] := by
  unfold actions
  rw [ready]

def rules : ReplayRules (Indicators K) K :=
  { initial := Indicators.start
    observe := params.observe
    actions := params.actions
    terms := { stopLossPct := params.stopLossPct, targetPct := none } }

end Params

def replaySymbol [FloorRing K] (df : Frame K) (params : Params K) : ReplayResult K :=
  params.rules.replay df params.maxHoldDays

end TradingEngine.SupertrendTrader
