/-
`PairsTradingStrategy`, which trades both legs of a pair on one bar.

The strategy waits until the last bars of both legs carry one timestamp, scores the newest
ratio of the closes against a rolling window and answers with a market intent for each
leg.  Its state is that of one trading day.
-/

import TradingEngine.General.SampleStatistics
import TradingEngine.Strategies.Base

namespace TradingEngine.PairsTrading

open Domain Strategies
open Signals (Side)

/-- `PairsTradingConfig` with what `__post_init__` checks; the time of day is in
microseconds. -/
structure Config where
  strategyId : String := "pairs_v1"
  symbolA : String := "HDFCBANK"
  symbolB : String := "ICICIBANK"
  quantityA : ℤ := 1
  quantityB : ℤ := 1
  windowSize : ℕ := 20
  entryZScore : ℚ := 2
  exitZScore : ℚ := 0
  stopLossZScore : ℚ := 4
  squareOffTime : ℤ := 54900000000
  quantityA_pos : 0 < quantityA := by decide
  quantityB_pos : 0 < quantityB := by decide
  one_lt_window : 1 < windowSize := by decide
  exit_lt_entry : exitZScore < entryZScore := by norm_num
  entry_lt_stop : entryZScore < stopLossZScore := by norm_num

inductive Spread where
  | long
  | short
deriving DecidableEq

/-- `_PairState`. -/
structure PairState where
  currentDate : Option ℤ
  lastBarA : Option Domain.Bar
  lastBarB : Option Domain.Bar
  ratioHistory : List ℚ
  position : Option Spread
  exitedToday : Bool

def PairState.start : PairState :=
  { currentDate := none
    lastBarA := none
    lastBarB := none
    ratioHistory := []
    position := none
    exitedToday := false }

def PairState.reset (newDate : ℤ) : PairState :=
  { PairState.start with currentDate := some newDate }

/-- `_bar_date`, for timestamps in exchange time. -/
def barDate (bar : Domain.Bar) : ℤ :=
  tradingDay bar.timestamp

/-- `_bar_time`, for timestamps in exchange time. -/
def barTime (bar : Domain.Bar) : ℤ :=
  bar.timestamp % 86400000000

def legIntent (strategyId symbol exchange : String) (side : Side) (quantity : ℤ)
    (quantity_pos : 0 < quantity) : OrderIntent :=
  { strategyId := strategyId
    symbol := symbol
    exchange := exchange
    side := side
    quantity := quantity
    orderType := .market
    product := .mis
    validity := "DAY"
    price := none
    triggerPrice := none
    shape :=
      { quantity_pos := quantity_pos
        limit_priced := nofun
        stop_triggered := by rintro (limit | limit) <;> cases limit } }

namespace Config

variable (config : Config)

/-- `_create_intents`. -/
def createIntents (sideA sideB : Side) (exchange : String) : List OrderIntent :=
  [legIntent config.strategyId config.symbolA exchange sideA config.quantityA config.quantityA_pos,
    legIntent config.strategyId config.symbolB exchange sideB config.quantityB
      config.quantityB_pos]

/-- `_close_position_intents`. -/
def closePositionIntents (position : Spread) (exchange : String) : List OrderIntent :=
  match position with
  | .long => config.createIntents .sell .buy exchange
  | .short => config.createIntents .buy .sell exchange

def onZScore (z : ℚ) (exchange : String) (state : PairState) : List OrderIntent × PairState :=
  match state.position with
  | some .long =>
      if z ≤ -config.stopLossZScore then
        (config.closePositionIntents .long exchange,
          { state with
            position := none
            exitedToday := true })
      else if -config.exitZScore ≤ z then
        (config.closePositionIntents .long exchange, { state with position := none })
      else ([], state)
  | some .short =>
      if config.stopLossZScore ≤ z then
        (config.closePositionIntents .short exchange,
          { state with
            position := none
            exitedToday := true })
      else if z ≤ config.exitZScore then
        (config.closePositionIntents .short exchange, { state with position := none })
      else ([], state)
  | none =>
      if state.exitedToday then ([], state)
      else if z ≤ -config.entryZScore then
        (config.createIntents .buy .sell exchange, { state with position := some .long })
      else if config.entryZScore ≤ z then
        (config.createIntents .sell .buy exchange, { state with position := some .short })
      else ([], state)

/-- The z-score part of `on_bar`, once the newest ratio is in the window. -/
def onRatio (sqrt : ℚ → ℚ) (currentRatio : ℚ) (exchange : String) (state : PairState) :
    List OrderIntent × PairState :=
  if state.ratioHistory.length < config.windowSize then ([], state)
  else
    let meanRatio := SampleStatistics.mean state.ratioHistory
    let stdevRatio := SampleStatistics.stdev sqrt state.ratioHistory
    if stdevRatio = 0 then ([], state)
    else config.onZScore ((currentRatio - meanRatio) / stdevRatio) exchange state

/-- The part of `on_bar` after both last bars are found to carry one timestamp. -/
def onPair (sqrt : ℚ → ℚ) (bar barA barB : Domain.Bar) (state : PairState) :
    List OrderIntent × PairState :=
  if barB.close = 0 then ([], state)
  else
    let currentRatio := barA.close / barB.close
    let extended := state.ratioHistory ++ [currentRatio]
    let ratioHistory := if config.windowSize < extended.length then extended.tail else extended
    let updated := { state with ratioHistory := ratioHistory }
    match updated.position with
    | some position =>
        if config.squareOffTime ≤ barTime bar then
          (config.closePositionIntents position bar.exchange,
            { updated with
              position := none
              exitedToday := true })
        else config.onRatio sqrt currentRatio bar.exchange updated
    | none => config.onRatio sqrt currentRatio bar.exchange updated

/-- The first part of `on_bar`: a new day resets the state, and the bar is stored. -/
def storeBar (bar : Domain.Bar) (state : PairState) : PairState :=
  let today :=
    if state.currentDate = some (barDate bar) then state else PairState.reset (barDate bar)
  if bar.symbol = config.symbolA then { today with lastBarA := some bar }
  else { today with lastBarB := some bar }

def onBar (sqrt : ℚ → ℚ) (bar : Domain.Bar) (state : PairState) :
    List OrderIntent × PairState :=
  if bar.symbol ≠ config.symbolA ∧ bar.symbol ≠ config.symbolB then ([], state)
  else
    let stored := config.storeBar bar state
    match stored.lastBarA, stored.lastBarB with
    | some barA, some barB =>
        if barA.timestamp = barB.timestamp then config.onPair sqrt bar barA barB stored
        else ([], stored)
    | _, _ => ([], stored)

/-- The strategy for the engines, whatever the type of their configurations. -/
def strategy (κ : Type) (sqrt : ℚ → ℚ) : Strategy PairState κ :=
  { onStart := Strategy.noStart
    onBar := fun bar _context state => .ok (config.onBar sqrt bar state) }

/-! ### Both legs on one bar -/

/-- What a bar is answered with: nothing, or a market intent for each leg. -/
def BothLegs (answer : List OrderIntent) : Prop :=
  answer = [] ∨ ∃ sideA sideB exchange, answer = config.createIntents sideA sideB exchange

variable {config}

theorem bothLegs_closePositionIntents (config : Config) (position : Spread) (exchange : String) :
    config.BothLegs (config.closePositionIntents position exchange) := by
  cases position with
  | long => exact Or.inr ⟨.sell, .buy, exchange, rfl⟩
  | short => exact Or.inr ⟨.buy, .sell, exchange, rfl⟩

theorem bothLegs_onZScore (z : ℚ) (exchange : String) (state : PairState) :
    config.BothLegs (config.onZScore z exchange state).1 := by
  unfold onZScore
  cases state.position with
  | none =>
      dsimp only
      split_ifs
      · exact Or.inl rfl
      · exact Or.inr ⟨.buy, .sell, exchange, rfl⟩
      · exact Or.inr ⟨.sell, .buy, exchange, rfl⟩
      · exact Or.inl rfl
  | some position =>
      have closes := config.bothLegs_closePositionIntents position exchange
      cases position with
      | long =>
          dsimp only
          split_ifs
          · exact closes
          · exact closes
          · exact Or.inl rfl
      | short =>
          dsimp only
          split_ifs
          · exact closes
          · exact closes
          · exact Or.inl rfl

theorem bothLegs_onRatio (sqrt : ℚ → ℚ) (currentRatio : ℚ) (exchange : String)
    (state : PairState) : config.BothLegs (config.onRatio sqrt currentRatio exchange state).1 := by
  unfold onRatio
  dsimp only
  split_ifs
  · exact Or.inl rfl
  · exact Or.inl rfl
  · exact bothLegs_onZScore _ exchange state

theorem bothLegs_onPair (sqrt : ℚ → ℚ) (bar barA barB : Domain.Bar) (state : PairState) :
    config.BothLegs (config.onPair sqrt bar barA barB state).1 := by
  unfold onPair
  by_cases worthless : barB.close = 0
  · rw [if_pos worthless]
    exact Or.inl rfl
  · rw [if_neg worthless]
    dsimp only
    cases state.position with
    | none => exact bothLegs_onRatio sqrt _ bar.exchange _
    | some position =>
        dsimp only
        by_cases late : config.squareOffTime ≤ barTime bar
        · rw [if_pos late]
          exact config.bothLegs_closePositionIntents position bar.exchange
        · rw [if_neg late]
          exact bothLegs_onRatio sqrt _ bar.exchange _

theorem bothLegs_onBar (sqrt : ℚ → ℚ) (bar : Domain.Bar) (state : PairState) :
    config.BothLegs (config.onBar sqrt bar state).1 := by
  unfold onBar
  by_cases foreign : bar.symbol ≠ config.symbolA ∧ bar.symbol ≠ config.symbolB
  · rw [if_pos foreign]
    exact Or.inl rfl
  · rw [if_neg foreign]
    dsimp only
    generalize config.storeBar bar state = stored
    cases stored.lastBarA with
    | none => exact Or.inl rfl
    | some barA =>
        cases stored.lastBarB with
        | none => exact Or.inl rfl
        | some barB =>
            dsimp only
            split_ifs
            · exact bothLegs_onPair sqrt bar barA barB stored
            · exact Or.inl rfl

end Config

end TradingEngine.PairsTrading
