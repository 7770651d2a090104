/-
`run_bb_squeeze_trader.replay_symbol`.

The bands of a bar are read from the closes of its window, so there is no
indicator state to carry; the loop starts at the first bar that has a full
window before it.  A stop is booked at the stop price on the bar itself, the
other exits at the next open under the date of the bar.
-/

import TradingEngine.General.SampleStatistics
import TradingEngine.Scripts.ReplayLoop

namespace TradingEngine.BBSqueezeTrader

open SampleStatistics

variable {K : Type} [Field K] [LinearOrder K]

def bbWindow : ℕ := 20

def bbStdMult : K := (2 : ℕ)

structure Params (K : Type) where
  squeezeThreshold : K
  stopLossPct : K
  maxHoldDays : ℤ

structure Reading (K : Type) where
  middle : K
  upper : K
  prevSqueeze : Bool

/-- `closes[stop - BB_WINDOW : stop]`. -/
def windowBefore (df : Frame K) (stop : ℕ) : List K :=
  ((df.bars.map Bar.close).drop (stop - bbWindow)).take bbWindow

namespace Params

variable (sqrt : K → K) (params : Params K)

def isSqueeze (window : List K) : Bool :=
  let middle := mean window
  let std := stdev sqrt window
  let upper := middle + bbStdMult * std
  let lower := middle - bbStdMult * std
  let bandWidth := if 0 < middle then (upper - lower) / middle else (999 : ℕ)
  bandWidth < params.squeezeThreshold

def readingAt (df : Frame K) (i : ℕ) : Option (Reading K) :=
  if i < bbWindow then none
  else
    let window := windowBefore df (i + 1)
    some
      { middle := mean window
        upper := mean window + bbStdMult * stdev sqrt window
        prevSqueeze := params.isSqueeze sqrt (windowBefore df i) }

def exitAt (bar : Bar K) (fillPrice : K) (reading : Reading K) (position : Position K) :
    Option (K × ExitReason) :=
  if bar.low ≤ position.stopPrice then some (position.stopPrice, .stopLoss)
  else if bar.close < reading.middle then some (fillPrice, .priceBelowMidband)
  else if params.maxHoldDays ≤ bar.timestamp.daysSince position.entryDate then
    some (fillPrice, .maxDaysHeld params.maxHoldDays)
  else none

def actions (bar : Bar K) (fill : K × Timestamp) (reading : Option (Reading K))
    (position : Option (Position K)) : List (Action K) :=
  match reading with
  | none => []
  | some reading =>
      match position with
      | some held =>
          match params.exitAt bar fill.1 reading held with
          | some (price, reason) => [.close price bar.timestamp reason]
          | none => []
      | none =>
          if reading.prevSqueeze && reading.upper < bar.close then [.enter] else []

theorem actions_of_held (bar : Bar K) (fill : K × Timestamp) (reading : Reading K)
    (held : Position K) :
    params.actions bar fill (some reading) (some held) =
      (params.exitAt bar fill.1 reading held).toList.map
        (fun exit => .close exit.1 bar.timestamp exit.2) := by
  unfold actions
  cases exit : params.exitAt bar fill.1 reading held <;> simp [exit]

theorem exitAt_map_snd (bar : Bar K) (fillPrice otherPrice : K) (reading : Reading K)
    (held : Position K) :
    (params.exitAt bar fillPrice reading held).map Prod.snd =
      (params.exitAt bar otherPrice reading held).map Prod.snd := by
  unfold exitAt
  split_ifs <;> rfl

def rules : ReplayRules (Option (Reading K)) K :=
  { initial := none
    observe := fun df i _bar _reading => params.readingAt sqrt df i
    actions := params.actions
    terms := { stopLossPct := params.stopLossPct, targetPct := none } }

end Params

def replaySymbol [FloorRing K] (sqrt : K → K) (df : Frame K) (params : Params K) :
    ReplayResult K :=
  (params.rules sqrt).replay df params.maxHoldDays

end TradingEngine.BBSqueezeTrader
