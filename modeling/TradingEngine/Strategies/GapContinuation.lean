/-
`GapContinuationStrategy`.

A qualified gap is followed: a gap up is bought and a gap down is sold, once the price has
gone on from the opening price by the trigger.
-/

import TradingEngine.Strategies.OpeningGap

namespace TradingEngine.GapContinuation

open Domain Intraday OpeningGap
open PairsTrading (barDate barTime)

/-- `GapContinuationConfig` with what `__post_init__` checks; times of day are in
microseconds. -/
structure Config extends OrderTerms where
  strategyId := "gap_cont_v1"
  sessionStart : ℤ := 33300000000
  entryStartTime : ℤ := 33600000000
  latestEntryTime : ℤ := 37800000000
  squareOffTime : ℤ := 54900000000
  minGapBps : ℚ := 60
  maxGapBps : ℚ := 300
  continuationTriggerBps : ℚ := 20
  stopLossBps : ℚ := 80
  targetBps : Option ℚ := none
  maxTradesPerSymbolPerDay : ℕ := 1
  allowLongContinuations : Bool := true
  allowShortContinuations : Bool := true
  minOpeningVolume : Option ℤ := none
  minGap_pos : 0 < minGapBps := by norm_num
  minGap_lt_maxGap : minGapBps < maxGapBps := by norm_num
  continuationTrigger_pos : 0 < continuationTriggerBps := by norm_num
  stopLoss_pos : 0 < stopLossBps := by norm_num
  target_pos : ∀ bps ∈ targetBps, 0 < bps := by simp
  one_le_trades : 1 ≤ maxTradesPerSymbolPerDay := by decide
  latest_lt_squareOff : latestEntryTime < squareOffTime := by decide

/-- The position fields of `_SymbolState`. -/
structure Position where
  side : Direction
  entryPrice : ℚ
  stopPrice : ℚ
  targetPrice : Option ℚ
deriving DecidableEq

/-- `_SymbolState`. -/
structure SymbolState where
  currentDate : Option ℤ
  gap : GapState
  position : Option Position
  tradesTakenToday : ℕ
deriving DecidableEq

def SymbolState.start : SymbolState :=
  { currentDate := none
    gap := GapState.start
    position := none
    tradesTakenToday := 0 }

/-- `reset`. -/
def SymbolState.reset (newDate : ℤ) (state : SymbolState) : SymbolState :=
  { SymbolState.start with
    currentDate := some newDate
    gap := state.gap.nextDay }

namespace Config

variable (config : Config)

def style : Style :=
  { quantity := config.quantity
    entryReasons := ["gc_long_entry", "gc_short_entry"] }

def limits : Limits :=
  { maxTrades := config.maxTradesPerSymbolPerDay
    earliest := config.entryStartTime
    latest := config.latestEntryTime
    squareOff := config.squareOffTime
    latest_lt_squareOff := config.latest_lt_squareOff }

/-- A gap up is followed long, a gap down short; there is no absolute filter. -/
def settings : Settings :=
  { sessionStart := config.sessionStart
    minGapBps := config.minGapBps
    maxGapBps := config.maxGapBps
    minGapAbs := none
    minOpeningVolume := config.minOpeningVolume
    onGapUp := if config.allowLongContinuations then some .long else none
    onGapDown := if config.allowShortContinuations then some .short else none }

/-- `_can_enter`. -/
def canEnter (time : ℤ) (state : SymbolState) : Bool :=
  OpeningGap.canEnter config.limits time state.gap state.position.isNone state.tradesTakenToday

def entryReason : Direction → String
  | .long => "gc_long_entry"
  | .short => "gc_short_entry"

/-- `_check_entry`. -/
def checkEntry (bar : Domain.Bar) (state : SymbolState) : Option (Intent × Direction) :=
  match state.gap.openingPrice, state.gap.direction with
  | some openingPrice, some direction =>
      if triggered direction bar openingPrice config.continuationTriggerBps then
        some (config.intent bar direction.entrySide (entryReason direction), direction)
      else none
  | _, _ => none

/-- `_set_position_state`. -/
def openPosition (bar : Domain.Bar) (side : Direction) : Position :=
  { side := side
    entryPrice := bar.close
    stopPrice := side.against bar.close (fraction config.stopLossBps)
    targetPrice := config.targetBps.map (fun bps => side.inFavour bar.close (fraction bps)) }

/-- The reason that `_check_exit` finds, by its priority. -/
def exitReason (bar : Domain.Bar) (held : Position) : Option String :=
  if held.side.stopHit bar held.stopPrice then some "gc_stop_loss"
  else if held.targetPrice.any (held.side.targetHit bar) then some "gc_target"
  else if config.squareOffTime ≤ barTime bar then some "gc_square_off"
  else none

/-- `_check_exit` with `_exit_intent`. -/
def checkExit (bar : Domain.Bar) (held : Position) : Option Intent :=
  (config.exitReason bar held).map (config.intent bar held.side.exitSide)

/-- The state that the exit and entry checks of a bar see. -/
def observed (bar : Domain.Bar) (state : SymbolState) : SymbolState :=
  let today :=
    if state.currentDate = some (barDate bar) then state
    else SymbolState.reset (barDate bar) state
  { today with gap := config.settings.observe bar today.gap }

def entry (bar : Domain.Bar) (state : SymbolState) : Option (Intent × Position) :=
  if config.canEnter (barTime bar) state then
    (config.checkEntry bar state).map (fun found => (found.1, config.openPosition bar found.2))
  else none

/-- `on_bar` on the state of the bar's symbol. -/
def onSymbolBar (bar : Domain.Bar) (state : SymbolState) : List Intent × SymbolState :=
  let seen := config.observed bar state
  let action := exitOrEnter seen.position (config.checkExit bar) (config.entry bar seen)
  (action.intents,
    { seen with
      position := action.position seen.position
      tradesTakenToday := action.tradesTaken seen.tradesTakenToday })

def machine : EventMachine Domain.Bar SymbolState (List Intent) :=
  { start := SymbolState.start
    step := config.onSymbolBar }

def strategy : EventMachine Domain.Bar (OrderedDict String SymbolState) (List Intent) :=
  config.machine.keyed Domain.Bar.symbol

/-! ### Limits -/

variable {config} {bar : Domain.Bar} {state : SymbolState}

theorem enters_of_checkEntry {intent : Intent} {direction : Direction}
    (found : config.checkEntry bar state = some (intent, direction)) :
    config.style.Enters bar direction intent := by
  unfold checkEntry at found
  split at found
  · split_ifs at found
    cases found
    exact Style.enters_of_either rfl rfl direction
  · cases found

theorem exits_of_checkExit {held : Position} {intent : Intent}
    (found : config.checkExit bar held = some intent) :
    config.style.Exits bar held.side intent := by
  refine Style.exits_of_map rfl (fun reason exiting => ?_) found
  unfold exitReason at exiting
  split_ifs at exiting
  all_goals
    cases exiting
    simp [style]

theorem checkExit_of_late (late : config.squareOffTime ≤ barTime bar) (held : Position) :
    config.checkExit bar held ≠ none := by
  unfold checkExit exitReason
  split_ifs
  all_goals exact Option.some_ne_none _

theorem entry_cases {intent : Intent} {opened : Position}
    (found : config.entry bar state = some (intent, opened)) :
    config.canEnter (barTime bar) state = true ∧
      config.checkEntry bar state = some (intent, opened.side) := by
  obtain ⟨allowed, entering, _⟩ :=
    entered_of_ite (config.openPosition bar) Position.side (fun _ => rfl) found
  exact ⟨allowed, entering⟩

/-- The position and the entries of the day. -/
def standing (state : SymbolState) : Standing :=
  { held := state.position.map Position.side
    trades := state.tradesTakenToday }

theorem standing_observed (config : Config) (bar : Domain.Bar) (state : SymbolState) :
    standing (config.observed bar state) =
      if state.currentDate = some (barDate bar) then standing state else .empty := by
  unfold observed
  split_ifs
  · rfl
  · rfl

theorem move_onSymbolBar (config : Config) (bar : Domain.Bar) (state : SymbolState) :
    Move config.style config.limits bar
      (if state.currentDate = some (barDate bar) then standing state else .empty)
      (config.onSymbolBar bar state).1 (standing (config.onSymbolBar bar state).2) := by
  rw [← config.standing_observed]
  refine move_exitOrEnter Position.side _ ?_ ?_ ?_
  · exact fun held intent _ exiting => exits_of_checkExit exiting
  · exact fun held late => checkExit_of_late late held
  · intro intent opened found
    obtain ⟨allowed, entering⟩ := entry_cases found
    obtain ⟨_, _, spare, fromEarliest, untilLatest, _⟩ := OpeningGap.canEnter_iff.mp allowed
    exact ⟨enters_of_checkEntry entering, spare, fromEarliest, untilLatest⟩

def limited (config : Config) : LimitedMachine SymbolState :=
  { machine := config.machine
    style := config.style
    quantity_pos := config.quantity_pos
    limits := config.limits
    day := SymbolState.currentDate
    standing := standing
    start_day := rfl
    start_standing := rfl
    dated := fun _ state => day_today SymbolState.currentDate state rfl
    move := config.move_onSymbolBar }

end Config

end TradingEngine.GapContinuation
