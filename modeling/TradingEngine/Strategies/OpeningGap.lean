/-
The opening gap of `GapFadeStrategy` and `GapContinuationStrategy`.

The close of a day is carried into the next one.  The first bar of a session is measured
against it, and a gap within the bounds qualifies the day for one direction.
-/

import TradingEngine.Strategies.IntradayMachine

namespace TradingEngine.OpeningGap

open Domain Intraday
open PairsTrading (barDate barTime)

/-- What a configuration says of the gap; the directions are those of the entries. -/
structure Settings where
  sessionStart : ℤ
  minGapBps : ℚ
  maxGapBps : ℚ
  minGapAbs : Option ℚ
  minOpeningVolume : Option ℤ
  onGapUp : Option Direction
  onGapDown : Option Direction

/-- The gap fields of `_SymbolState`.  A day is qualified when it has a direction, and its
opening bar was seen when there is an opening price. -/
structure GapState where
  priorClose : Option ℚ
  lastClose : Option ℚ
  openingPrice : Option ℚ
  direction : Option Direction
deriving DecidableEq

namespace GapState

def start : GapState :=
  { priorClose := none
    lastClose := none
    openingPrice := none
    direction := none }

/-- The gap part of `reset`: the last close is carried over. -/
def nextDay (gap : GapState) : GapState :=
  { start with priorClose := gap.lastClose }

end GapState

namespace Settings

variable (settings : Settings)

def qualify (openingPrice : ℚ) (openingVolume : ℕ) (priorClose : ℚ) : Option Direction :=
  if priorClose = 0 then none
  else
    let gap := (openingPrice / priorClose - 1) * 10000
    if |gap| < settings.minGapBps ∨ settings.maxGapBps < |gap| then none
    else if ∃ least ∈ settings.minGapAbs, |openingPrice - priorClose| < least then none
    else if ∃ least ∈ settings.minOpeningVolume, (openingVolume : ℤ) < least then none
    else if 0 < gap then settings.onGapUp
    else if gap < 0 then settings.onGapDown
    else none

/-- `_process_opening_bar`. -/
def processOpeningBar (bar : Domain.Bar) (gap : GapState) : GapState :=
  { gap with
    openingPrice := some bar.openPrice
    direction := gap.priorClose.bind (settings.qualify bar.openPrice bar.volume) }

/-- The gap part of `on_bar`. -/
def observe (bar : Domain.Bar) (gap : GapState) : GapState :=
  let closed := { gap with lastClose := some bar.close }
  if closed.openingPrice = none ∧ settings.sessionStart ≤ barTime bar then
    settings.processOpeningBar bar closed
  else closed

end Settings

/-- The close has moved from the opening price by the trigger in the direction of the
entry. -/
def triggered (direction : Direction) (bar : Domain.Bar) (openingPrice triggerBps : ℚ) : Bool :=
  match direction with
  | .long => direction.inFavour openingPrice (fraction triggerBps) ≤ bar.close
  | .short => bar.close ≤ direction.inFavour openingPrice (fraction triggerBps)

/-- `_can_enter` of both strategies, without the VWAP of the fade. -/
def canEnter (limits : Limits) (time : ℤ) (gap : GapState) (flat : Bool) (trades : ℕ) : Bool :=
  gap.direction.isSome && flat && trades < limits.maxTrades && limits.earliest ≤ time &&
    time ≤ limits.latest && gap.openingPrice.isSome

theorem canEnter_iff {limits : Limits} {time : ℤ} {gap : GapState} {flat : Bool} {trades : ℕ} :
    canEnter limits time gap flat trades = true ↔
      gap.direction.isSome = true ∧ flat = true ∧ trades < limits.maxTrades ∧
        limits.earliest ≤ time ∧ time ≤ limits.latest ∧ gap.openingPrice.isSome = true := by
  simp [canEnter, and_assoc]

end TradingEngine.OpeningGap
