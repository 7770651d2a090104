/-
`LongOnlySwanStrategy.on_bar`, the reference of the Black Swan replay.

The strategy sees the bars of both legs one at a time and acts once the last
bars of both carry one timestamp.  A bar that sells does not also buy.
-/

import TradingEngine.General.LotSizing
import TradingEngine.General.RangeLoop
import TradingEngine.RatioZScore
import TradingEngine.Strategies.Signals

namespace TradingEngine.LongOnlySwan

open Signals (OrderIntent Side)

variable {K : Type} [Field K] [LinearOrder K]

/-- `LongOnlySwanConfig` with what `__post_init__` checks, for a pair of two
symbols. -/
structure Config (K : Type) [Field K] [LinearOrder K] where
  strategyId : String := "long_only_swan"
  symbolA : Ticker := "HDFCBANK"
  symbolB : Ticker := "HDFCLIFE"
  capitalPerLeg : ℕ := 100000
  windowSize : ℕ := 120
  entryZScore : K
  exitZScore : K := 0
  stopLossZScore : K
  maxHoldDays : ℤ := 30
  symbols_ne : symbolA ≠ symbolB := by decide
  capital_pos : 0 < capitalPerLeg := by decide
  one_lt_window : 1 < windowSize := by decide
  exit_lt_entry : exitZScore < entryZScore
  entry_lt_stop : entryZScore < stopLossZScore

/-- Position, entry time and quantity of `_PairState`, set and cleared together. -/
structure Holding where
  side : PairSide
  entryTime : Timestamp
  entryQty : ℕ
deriving DecidableEq

structure PairState (K : Type) where
  lastBarA : Option (Signals.Bar K)
  lastBarB : Option (Signals.Bar K)
  ratioHistory : List K
  position : Option Holding
deriving DecidableEq

def PairState.start : PairState K :=
  { lastBarA := none
    lastBarB := none
    ratioHistory := []
    position := none }

namespace Config

variable (config : Config K)

def symbolOf : PairSide → Ticker
  | .longA => config.symbolA
  | .longB => config.symbolB

def exitReason (z : K) (daysHeld : ℤ) : PairSide → Option String
  | .longA =>
      if z ≤ -config.stopLossZScore then some "long_a_stop_loss"
      else if -config.exitZScore ≤ z then some "long_a_exit"
      else if config.maxHoldDays ≤ daysHeld then some "long_a_time_exit"
      else none
  | .longB =>
      if config.stopLossZScore ≤ z then some "long_b_stop_loss"
      else if z ≤ config.exitZScore then some "long_b_exit"
      else if config.maxHoldDays ≤ daysHeld then some "long_b_time_exit"
      else none

def entrySide (z : K) : Option PairSide :=
  if z ≤ -config.entryZScore then some .longA
  else if config.entryZScore ≤ z then some .longB
  else none

def entryReason : PairSide → String
  | .longA => "long_a_entry"
  | .longB => "long_b_entry"

def createIntent (exchange : String) (traded : PairSide) (side : Side) (quantity : ℕ)
    (reason : String) : OrderIntent :=
  Signals.marketIntent config.strategyId (config.symbolOf traded) side quantity exchange reason

section OnBar

variable [FloorRing K]

def holdingAt (timestamp : Timestamp) (side : PairSide) (price : K) : Holding :=
  { side := side
    entryTime := timestamp
    entryQty := LotSizing.units (config.capitalPerLeg : K) price }

/-- The decision at a z-score; `closeOf` gives the closes of both legs. -/
def onZScore (z : K) (timestamp : Timestamp) (exchange : String) (closeOf : PairSide → K)
    (position : Option Holding) : List OrderIntent × Option Holding :=
  match position with
  | some held =>
      match config.exitReason z (timestamp.daysSince held.entryTime) held.side with
      | some reason =>
          ([config.createIntent exchange held.side .sell held.entryQty reason], none)
      | none => ([], some held)
  | none =>
      match config.entrySide z with
      | some side =>
          let holding := config.holdingAt timestamp side (closeOf side)
          ([config.createIntent exchange side .buy holding.entryQty (entryReason side)],
            some holding)
      | none => ([], none)

def pairCloses (barA barB : Signals.Bar K) : PairSide → K
  | .longA => barA.close
  | .longB => barB.close

/-- The rest of `on_bar` once both last bars carry the timestamp of `bar`. -/
def onPair (sqrt : K → K) (bar barA barB : Signals.Bar K) (state : PairState K) :
    List OrderIntent × PairState K :=
  if barB.close = 0 then ([], state)
  else
    let currentRatio := barA.close / barB.close
    let extended := state.ratioHistory ++ [currentRatio]
    let ratioHistory := if config.windowSize < extended.length then extended.tail else extended
    let updated := { state with ratioHistory := ratioHistory }
    if ratioHistory.length < config.windowSize then ([], updated)
    else
      let meanRatio := SampleStatistics.mean ratioHistory
      let stdevRatio := SampleStatistics.stdev sqrt ratioHistory
      if stdevRatio = 0 then ([], updated)
      else
        let answer := config.onZScore ((currentRatio - meanRatio) / stdevRatio) bar.timestamp
          bar.exchange (pairCloses barA barB) state.position
        (answer.1, { updated with position := answer.2 })

/-- The rest of `on_bar` once the bar of one leg is stored. -/
def onStored (sqrt : K → K) (bar : Signals.Bar K) (state : PairState K) :
    List OrderIntent × PairState K :=
  match state.lastBarA, state.lastBarB with
  | some barA, some barB =>
      if barA.timestamp = barB.timestamp then config.onPair sqrt bar barA barB state
      else ([], state)
  | _, _ => ([], state)

/-- `on_bar`. -/
def onBar (sqrt : K → K) (bar : Signals.Bar K) (state : PairState K) :
    List OrderIntent × PairState K :=
  if bar.symbol = config.symbolA then
    config.onStored sqrt bar { state with lastBarA := some bar }
  else if bar.symbol = config.symbolB then
    config.onStored sqrt bar { state with lastBarB := some bar }
  else ([], state)

/-! ### A strategy fed with the rows of its pair -/

def barA (exchange : String) (row : PairRow K) : Signals.Bar K :=
  { symbol := config.symbolA
    exchange := exchange
    timestamp := row.timestamp
    close := row.closeA }

def barB (exchange : String) (row : PairRow K) : Signals.Bar K :=
  { symbol := config.symbolB
    exchange := exchange
    timestamp := row.timestamp
    close := row.closeB }

/-- A row is fed as its two bars, in the order of the symbol names. -/
def onRow (sqrt : K → K) (exchange : String) (aFirst : Bool) (row : PairRow K)
    (state : PairState K) : List OrderIntent × PairState K :=
  let first := if aFirst then config.barA exchange row else config.barB exchange row
  let second := if aFirst then config.barB exchange row else config.barA exchange row
  let afterFirst := config.onBar sqrt first state
  let afterSecond := config.onBar sqrt second afterFirst.2
  (afterFirst.1 ++ afterSecond.1, afterSecond.2)

def stateAfter (sqrt : K → K) (exchange : String) (aFirst : Bool) (rows : List (PairRow K))
    (count : ℕ) : PairState K :=
  RangeLoop.loop
    (fun i state =>
      match rows[i]? with
      | none => state
      | some row => (config.onRow sqrt exchange aFirst row state).2)
    PairState.start count

def intentsAt (sqrt : K → K) (exchange : String) (aFirst : Bool) (rows : List (PairRow K))
    (i : ℕ) : List OrderIntent :=
  match rows[i]? with
  | none => []
  | some row =>
      (config.onRow sqrt exchange aFirst row
        (config.stateAfter sqrt exchange aFirst rows i)).1

/-! ### What one row does -/

def Fresh (row : PairRow K) (state : PairState K) : Prop :=
  (∀ bar, state.lastBarA = some bar → bar.timestamp ≠ row.timestamp) ∧
    ∀ bar, state.lastBarB = some bar → bar.timestamp ≠ row.timestamp

theorem onBar_barA (sqrt : K → K) (exchange : String) (row : PairRow K)
    (state : PairState K) :
    config.onBar sqrt (config.barA exchange row) state =
      config.onStored sqrt (config.barA exchange row)
        { state with lastBarA := some (config.barA exchange row) } :=
  if_pos rfl

theorem onBar_barB (sqrt : K → K) (exchange : String) (row : PairRow K)
    (state : PairState K) :
    config.onBar sqrt (config.barB exchange row) state =
      config.onStored sqrt (config.barB exchange row)
        { state with lastBarB := some (config.barB exchange row) } := by
  have otherLeg : (config.barB exchange row).symbol ≠ config.symbolA := config.symbols_ne.symm
  have ownLeg : (config.barB exchange row).symbol = config.symbolB := rfl
  unfold onBar
  rw [if_neg otherLeg, if_pos ownLeg]

theorem onStored_barA_of_fresh (sqrt : K → K) (exchange : String) {row : PairRow K}
    {state : PairState K} (fresh : Fresh row state) :
    config.onStored sqrt (config.barA exchange row)
        { state with lastBarA := some (config.barA exchange row) } =
      ([], { state with lastBarA := some (config.barA exchange row) }) := by
  cases other : state.lastBarB with
  | none => simp only [onStored]
  | some bar =>
      have apart : (config.barA exchange row).timestamp ≠ bar.timestamp :=
        (fresh.2 bar other).symm
      simp only [onStored, if_neg apart]

theorem onStored_barB_of_fresh (sqrt : K → K) (exchange : String) {row : PairRow K}
    {state : PairState K} (fresh : Fresh row state) :
    config.onStored sqrt (config.barB exchange row)
        { state with lastBarB := some (config.barB exchange row) } =
      ([], { state with lastBarB := some (config.barB exchange row) }) := by
  cases other : state.lastBarA with
  | none => simp only [onStored]
  | some bar =>
      have apart : bar.timestamp ≠ (config.barB exchange row).timestamp := fresh.1 bar other
      simp only [onStored, if_neg apart]

theorem onRow_of_fresh (sqrt : K → K) (exchange : String) (aFirst : Bool)
    {row : PairRow K} {state : PairState K} (fresh : Fresh row state) :
    config.onRow sqrt exchange aFirst row state =
      config.onPair sqrt (config.barA exchange row) (config.barA exchange row)
        (config.barB exchange row)
        { state with
          lastBarA := some (config.barA exchange row)
          lastBarB := some (config.barB exchange row) } := by
  have sameTime : (config.barA exchange row).timestamp = (config.barB exchange row).timestamp :=
    rfl
  cases aFirst with
  | true =>
      simp only [onRow, if_true, config.onBar_barA, config.onBar_barB,
        config.onStored_barA_of_fresh sqrt exchange fresh, List.nil_append]
      simp only [onStored, if_pos sameTime]
      rfl
  | false =>
      simp only [onRow, Bool.false_eq_true, if_false, config.onBar_barA, config.onBar_barB,
        config.onStored_barB_of_fresh sqrt exchange fresh, List.nil_append]
      simp only [onStored, if_pos sameTime]

theorem onPair_eq (sqrt : K → K) (exchange : String) (row : PairRow K)
    (state : PairState K) :
    config.onPair sqrt (config.barA exchange row) (config.barA exchange row)
        (config.barB exchange row) state =
      (row.zScore sqrt config.windowSize
          (row.observe config.windowSize state.ratioHistory)).elim
        ([], { state with ratioHistory := row.observe config.windowSize state.ratioHistory })
        (fun z =>
          ((config.onZScore z row.timestamp exchange row.closeOf state.position).1,
            { state with
              ratioHistory := row.observe config.windowSize state.ratioHistory
              position :=
                (config.onZScore z row.timestamp exchange row.closeOf state.position).2 })) := by
  have closes : pairCloses (config.barA exchange row) (config.barB exchange row) =
      row.closeOf := by
    funext side
    cases side <;> rfl
  unfold onPair PairRow.zScore
  by_cases zero : row.closeB = 0
  · have kept : row.observe config.windowSize state.ratioHistory = state.ratioHistory :=
      if_pos zero
    rw [if_pos (Or.inl zero), kept]
    exact if_pos zero
  · have pushed : row.observe config.windowSize state.ratioHistory =
        if config.windowSize < (state.ratioHistory ++ [row.ratio]).length then
          (state.ratioHistory ++ [row.ratio]).tail
        else state.ratioHistory ++ [row.ratio] := if_neg zero
    have counted : (config.barB exchange row).close ≠ 0 := zero
    have newRatio : (config.barA exchange row).close / (config.barB exchange row).close =
        row.ratio := rfl
    rw [if_neg counted]
    simp only [newRatio, ← pushed, closes]
    by_cases short : (row.observe config.windowSize state.ratioHistory).length <
        config.windowSize
    · rw [if_pos short, if_pos (Or.inr (Or.inl short))]
      rfl
    · by_cases level : SampleStatistics.stdev sqrt
          (row.observe config.windowSize state.ratioHistory) = 0
      · rw [if_neg short, if_pos level, if_pos (Or.inr (Or.inr level))]
        rfl
      · rw [if_neg short, if_neg level,
          if_neg (not_or.mpr ⟨zero, not_or.mpr ⟨short, level⟩⟩)]
        rfl

theorem onRow_lastBars (sqrt : K → K) (exchange : String) (aFirst : Bool)
    {row : PairRow K} {state : PairState K} (fresh : Fresh row state) :
    (config.onRow sqrt exchange aFirst row state).2.lastBarA =
        some (config.barA exchange row) ∧
      (config.onRow sqrt exchange aFirst row state).2.lastBarB =
        some (config.barB exchange row) := by
  rw [config.onRow_of_fresh sqrt exchange aFirst fresh, onPair_eq]
  cases PairRow.zScore sqrt config.windowSize row
      (row.observe config.windowSize state.ratioHistory) <;> exact ⟨rfl, rfl⟩

/-! ### Rows with increasing timestamps -/

variable {config} {sqrt : K → K} {exchange : String} {aFirst : Bool}

theorem stateAfter_succ {rows : List (PairRow K)} {i : ℕ} {row : PairRow K}
    (found : rows[i]? = some row) :
    config.stateAfter sqrt exchange aFirst rows (i + 1) =
      (config.onRow sqrt exchange aFirst row
        (config.stateAfter sqrt exchange aFirst rows i)).2 := by
  change (match rows[i]? with
    | none => config.stateAfter sqrt exchange aFirst rows i
    | some row => (config.onRow sqrt exchange aFirst row
        (config.stateAfter sqrt exchange aFirst rows i)).2) = _
  rw [found]

theorem intentsAt_of_getElem? {rows : List (PairRow K)} {i : ℕ} {row : PairRow K}
    (found : rows[i]? = some row) :
    config.intentsAt sqrt exchange aFirst rows i =
      (config.onRow sqrt exchange aFirst row
        (config.stateAfter sqrt exchange aFirst rows i)).1 := by
  unfold intentsAt
  rw [found]

theorem fresh_stateAfter (series : PairSeries K) :
    ∀ i row, series.rows[i]? = some row →
      Fresh row (config.stateAfter sqrt exchange aFirst series.rows i) := by
  intro i
  induction i with
  | zero =>
      intro row _
      constructor <;> intro bar seen <;> contradiction
  | succ i ih =>
      intro row found
      have bound : i < series.rows.length :=
        Nat.lt_of_succ_lt (List.getElem?_eq_some_iff.mp found).1
      have previous : series.rows[i]? = some series.rows[i] := List.getElem?_eq_getElem bound
      have apart := series.timestamp_ne (Nat.lt_succ_self i) previous found
      obtain ⟨seenA, seenB⟩ := config.onRow_lastBars sqrt exchange aFirst (ih _ previous)
      rw [stateAfter_succ previous]
      constructor
      · intro bar seen
        rw [← Option.some.inj (seenA.symm.trans seen)]
        exact apart
      · intro bar seen
        rw [← Option.some.inj (seenB.symm.trans seen)]
        exact apart

theorem onRow_series (series : PairSeries K) {i : ℕ} {row : PairRow K}
    (found : series.rows[i]? = some row) :
    config.onRow sqrt exchange aFirst row
        (config.stateAfter sqrt exchange aFirst series.rows i) =
      config.onPair sqrt (config.barA exchange row) (config.barA exchange row)
        (config.barB exchange row)
        { config.stateAfter sqrt exchange aFirst series.rows i with
          lastBarA := some (config.barA exchange row)
          lastBarB := some (config.barB exchange row) } :=
  config.onRow_of_fresh sqrt exchange aFirst (fresh_stateAfter series i row found)

end OnBar

end Config

end TradingEngine.LongOnlySwan
