/-
`FirstHourMomentumStrategy`.

The first bars of a session make up a window.  When it is complete, a bar that extends the
move of the window is answered with an entry, and an open position is left on its stop, its
target, its trailing stop or at the square-off time.
-/

import TradingEngine.Strategies.IntradayMachine

namespace TradingEngine.FirstHourMomentum

open Domain Intraday
open PairsTrading (barDate barTime)

/-- `FirstHourMomentumConfig` with what `__post_init__` checks; times of day are in
microseconds. -/
structure Config extends OrderTerms where
  strategyId := "first_hour_momentum_v1"
  sessionStart : ℤ := 33300000000
  momentumWindowMinutes : ℕ := 30
  earliestEntryTime : ℤ := 35100000000
  latestEntryTime : ℤ := 43200000000
  squareOffTime : ℤ := 54900000000
  minFirstWindowReturnBps : ℚ := 60
  minOpeningRangeBps : ℚ := 30
  maxOpeningRangeBps : ℚ := 250
  requirePriceAboveVwapForLongs : Bool := true
  requirePriceBelowVwapForShorts : Bool := true
  allowShorts : Bool := false
  stopLossBps : ℚ := 80
  trailingStopBps : Option ℚ := none
  targetBps : Option ℚ := none
  maxTradesPerSymbolPerDay : ℕ := 1
  minBarsBeforeSignal : ℕ := 30
  minFirstWindowAbsMove : Option ℚ := none
  minOpeningRangeAbs : Option ℚ := none
  window_pos : 0 < momentumWindowMinutes := by decide
  return_pos : 0 < minFirstWindowReturnBps := by norm_num
  stopLoss_pos : 0 < stopLossBps := by norm_num
  earliest_le_latest : earliestEntryTime ≤ latestEntryTime := by decide
  latest_lt_squareOff : latestEntryTime < squareOffTime := by decide
  one_le_trades : 1 ≤ maxTradesPerSymbolPerDay := by decide
  window_le_bars : momentumWindowMinutes ≤ minBarsBeforeSignal := by decide
  trailingStop_pos : ∀ bps ∈ trailingStopBps, 0 < bps := by simp
  target_pos : ∀ bps ∈ targetBps, 0 < bps := by simp
  absMove_pos : ∀ move ∈ minFirstWindowAbsMove, 0 < move := by simp
  rangeAbs_pos : ∀ range ∈ minOpeningRangeAbs, 0 < range := by simp

/-- The first-window fields of `_SymbolState`. -/
structure FirstWindow where
  barsInWindow : ℕ
  openPrice : Option ℚ
  high : Option ℚ
  low : Option ℚ
  close : Option ℚ
  complete : Bool
  returnBps : Option ℚ
  openingRangeBps : Option ℚ
deriving DecidableEq

def FirstWindow.start : FirstWindow :=
  { barsInWindow := 0
    openPrice := none
    high := none
    low := none
    close := none
    complete := false
    returnBps := none
    openingRangeBps := none }

/-- The position fields of `_SymbolState`; they are set together.  The extreme is the highest
price since the entry of a long position, the lowest of a short one. -/
structure Position where
  side : Direction
  entryPrice : ℚ
  stopPrice : ℚ
  targetPrice : Option ℚ
  trailingStopPrice : Option ℚ
  extreme : Option ℚ
deriving DecidableEq

/-- `_SymbolState`. -/
structure SymbolState where
  currentDate : Option ℤ
  session : SessionVwap
  window : FirstWindow
  barsSeenToday : ℕ
  position : Option Position
  tradesTakenToday : ℕ
deriving DecidableEq

def SymbolState.start : SymbolState :=
  { currentDate := none
    session := SessionVwap.start
    window := FirstWindow.start
    barsSeenToday := 0
    position := none
    tradesTakenToday := 0 }

/-- `reset`. -/
def SymbolState.reset (newDate : ℤ) : SymbolState :=
  { SymbolState.start with currentDate := some newDate }

namespace FirstWindow

def extend (bar : Domain.Bar) (window : FirstWindow) : FirstWindow :=
  { window with
    barsInWindow := window.barsInWindow + 1
    openPrice := if window.barsInWindow = 0 then some bar.openPrice else window.openPrice
    high := if ∀ high ∈ window.high, high < bar.high then some bar.high else window.high
    low := if ∀ low ∈ window.low, bar.low < low then some bar.low else window.low
    close := some bar.close }

def firstWindowReturn (window : FirstWindow) : Option ℚ :=
  match window.openPrice, window.close with
  | some openPrice, some close =>
      if 0 < openPrice then some ((close / openPrice - 1) * 10000) else window.returnBps
  | _, _ => window.returnBps

def openingRange (window : FirstWindow) : Option ℚ :=
  match window.high, window.low with
  | some high, some low =>
      if 0 < low then some ((high / low - 1) * 10000) else window.openingRangeBps
  | _, _ => window.openingRangeBps

end FirstWindow

namespace Config

variable (config : Config)

/-- `_update_window`. -/
def updateWindow (bar : Domain.Bar) (window : FirstWindow) : FirstWindow :=
  if window.complete then window
  else if barTime bar < config.sessionStart then window
  else
    let extended := window.extend bar
    if config.momentumWindowMinutes ≤ extended.barsInWindow then
      { extended with
        complete := true
        returnBps := extended.firstWindowReturn
        openingRangeBps := extended.openingRange }
    else extended

/-- `_can_enter`. -/
def canEnter (time : ℤ) (state : SymbolState) : Bool :=
  state.window.complete && state.position.isNone &&
    state.tradesTakenToday < config.maxTradesPerSymbolPerDay &&
    config.earliestEntryTime ≤ time && time ≤ config.latestEntryTime &&
    config.minBarsBeforeSignal ≤ state.barsSeenToday && state.session.vwap.isSome

/-- The filter on the absolute move of the window blocks. -/
def moveTooSmall (window : FirstWindow) (windowClose : ℚ) : Bool :=
  match config.minFirstWindowAbsMove, window.openPrice with
  | some least, some openPrice => |windowClose - openPrice| < least
  | _, _ => false

/-- The filter on the absolute opening range blocks. -/
def rangeTooSmall (window : FirstWindow) : Bool :=
  match config.minOpeningRangeAbs, window.high, window.low with
  | some least, some high, some low => high - low < least
  | _, _, _ => false

/-- `_check_entry`. -/
def checkEntry (bar : Domain.Bar) (state : SymbolState) : Option (Intent × Direction) :=
  match state.window.returnBps, state.window.openingRangeBps, state.window.close with
  | some windowReturn, some openingRange, some windowClose =>
      if openingRange < config.minOpeningRangeBps ∨ config.maxOpeningRangeBps < openingRange then
        none
      else if config.moveTooSmall state.window windowClose then none
      else if config.rangeTooSmall state.window then none
      else if config.minFirstWindowReturnBps ≤ windowReturn then
        if bar.close ≤ windowClose then none
        else if config.requirePriceAboveVwapForLongs ∧
            ∀ vwap ∈ state.session.vwap, bar.close ≤ vwap then none
        else some (config.intent bar .buy "fhm_long_entry", .long)
      else if config.allowShorts ∧ windowReturn ≤ -config.minFirstWindowReturnBps then
        if windowClose ≤ bar.close then none
        else if config.requirePriceBelowVwapForShorts ∧
            ∀ vwap ∈ state.session.vwap, vwap ≤ bar.close then none
        else some (config.intent bar .sell "fhm_short_entry", .short)
      else none
  | _, _, _ => none

/-- `_set_position_state`. -/
def openPosition (bar : Domain.Bar) (side : Direction) : Position :=
  { side := side
    entryPrice := bar.close
    stopPrice := side.against bar.close (fraction config.stopLossBps)
    targetPrice := config.targetBps.map (fun bps => side.inFavour bar.close (fraction bps))
    trailingStopPrice :=
      config.trailingStopBps.map (fun bps => side.against bar.close (fraction bps))
    extreme := config.trailingStopBps.map (fun _ => bar.close) }

def newExtreme (bar : Domain.Bar) (held : Position) : ℚ :=
  match held.side, held.extreme with
  | .long, some highest => if highest < bar.high then bar.high else highest
  | .long, none => bar.high
  | .short, some lowest => if bar.low < lowest then bar.low else lowest
  | .short, none => bar.low

/-- The better one of two trailing stops for a position. -/
def tightened (side : Direction) (newTrail stop : ℚ) : ℚ :=
  match side with
  | .long => if stop < newTrail then newTrail else stop
  | .short => if newTrail < stop then newTrail else stop

/-- `_update_trailing_stop`. -/
def updateTrailingStop (bar : Domain.Bar) (held : Position) : Position :=
  match config.trailingStopBps, held.trailingStopPrice with
  | some bps, some stop =>
      let extreme := newExtreme bar held
      { held with
        extreme := some extreme
        trailingStopPrice :=
          some (tightened held.side (held.side.against extreme (fraction bps)) stop) }
  | _, _ => held

/-- The reason that `_check_exit` finds, by its priority. -/
def exitReason (bar : Domain.Bar) (held : Position) : Option String :=
  if held.side.stopHit bar held.stopPrice then some "fhm_stop_loss"
  else if held.targetPrice.any (held.side.targetHit bar) then some "fhm_target"
  else if held.trailingStopPrice.any (held.side.stopHit bar) then some "fhm_trailing_stop"
  else if config.squareOffTime ≤ barTime bar then some "fhm_square_off"
  else none

/-- `_check_exit` with `_exit_intent`. -/
def checkExit (bar : Domain.Bar) (held : Position) : Option Intent :=
  (config.exitReason bar held).map (config.intent bar held.side.exitSide)

/-- The state that the exit and entry checks of a bar see. -/
def observed (bar : Domain.Bar) (state : SymbolState) : SymbolState :=
  let today :=
    if state.currentDate = some (barDate bar) then state else SymbolState.reset (barDate bar)
  { today with
    session := today.session.update bar
    window := config.updateWindow bar today.window
    barsSeenToday := today.barsSeenToday + 1
    position := today.position.map (config.updateTrailingStop bar) }

def entry (bar : Domain.Bar) (state : SymbolState) : Option (Intent × Position) :=
  if config.canEnter (barTime bar) state then
    (config.checkEntry bar state).map (fun found => (found.1, config.openPosition bar found.2))
  else none

/-- `on_bar` on the state of the bar's symbol. -/
def onSymbolBar (bar : Domain.Bar) (state : SymbolState) : List Intent × SymbolState :=
  let seen := config.observed bar state
  let action := exitOrEnter seen.position (config.checkExit bar) (config.entry bar seen)
  (action.intents,
    { seen with
      position := action.position seen.position
      tradesTakenToday := action.tradesTaken seen.tradesTakenToday })

def machine : EventMachine Domain.Bar SymbolState (List Intent) :=
  { start := SymbolState.start
    step := config.onSymbolBar }

def strategy : EventMachine Domain.Bar (OrderedDict String SymbolState) (List Intent) :=
  config.machine.keyed Domain.Bar.symbol

/-! ### Limits -/

def style : Style :=
  { quantity := config.quantity
    entryReasons := ["fhm_long_entry", "fhm_short_entry"] }

def limits : Limits :=
  { maxTrades := config.maxTradesPerSymbolPerDay
    earliest := config.earliestEntryTime
    latest := config.latestEntryTime
    squareOff := config.squareOffTime
    latest_lt_squareOff := config.latest_lt_squareOff }

variable {config} {bar : Domain.Bar} {state : SymbolState}

theorem checkEntry_cases {intent : Intent} {direction : Direction}
    (found : config.checkEntry bar state = some (intent, direction)) :
    config.style.Enters bar direction intent ∧ state.window.close ≠ some bar.close := by
  unfold checkEntry at found
  split at found
  · rename_i windowReturn openingRange windowClose _ _ closed
    rw [closed]
    split_ifs at found with _ _ _ _ notAbove _ _ notBelow
    · cases found
      exact ⟨Style.enters_intent rfl .long List.mem_cons_self,
        fun same => notAbove (Option.some.inj same).ge⟩
    · cases found
      exact ⟨Style.enters_intent rfl .short (List.mem_cons_of_mem _ List.mem_cons_self),
        fun same => notBelow (Option.some.inj same).le⟩
  · cases found

theorem exits_of_checkExit {held : Position} {intent : Intent}
    (found : config.checkExit bar held = some intent) :
    config.style.Exits bar held.side intent := by
  refine Style.exits_of_map rfl (fun reason exiting => ?_) found
  unfold exitReason at exiting
  split_ifs at exiting
  all_goals
    cases exiting
    simp [style]

theorem checkExit_of_late (late : config.squareOffTime ≤ barTime bar) (held : Position) :
    config.checkExit bar held ≠ none := by
  unfold checkExit exitReason
  split_ifs
  all_goals exact Option.some_ne_none _

theorem canEnter_iff {time : ℤ} : config.canEnter time state = true ↔
    state.window.complete = true ∧ state.position = none ∧
      state.tradesTakenToday < config.maxTradesPerSymbolPerDay ∧
      config.earliestEntryTime ≤ time ∧ time ≤ config.latestEntryTime ∧
      config.minBarsBeforeSignal ≤ state.barsSeenToday ∧ state.session.vwap.isSome = true := by
  simp [canEnter, and_assoc]

theorem entry_cases {intent : Intent} {opened : Position}
    (found : config.entry bar state = some (intent, opened)) :
    config.canEnter (barTime bar) state = true ∧
      config.checkEntry bar state = some (intent, opened.side) ∧
      opened = config.openPosition bar opened.side :=
  entered_of_ite (config.openPosition bar) Position.side (fun _ => rfl) found

/-- The position and the entries of the day. -/
def standing (state : SymbolState) : Standing :=
  { held := state.position.map Position.side
    trades := state.tradesTakenToday }

theorem side_updateTrailingStop (held : Position) :
    (config.updateTrailingStop bar held).side = held.side := by
  unfold updateTrailingStop
  split <;> rfl

theorem side_comp_updateTrailingStop :
    Position.side ∘ config.updateTrailingStop bar = Position.side :=
  funext side_updateTrailingStop

theorem standing_observed (bar : Domain.Bar) (state : SymbolState) :
    standing (config.observed bar state) =
      if state.currentDate = some (barDate bar) then standing state else .empty := by
  have kept (today : SymbolState) : standing
      { today with position := today.position.map (config.updateTrailingStop bar) } =
        standing today := by
    unfold standing
    rw [Option.map_map, side_comp_updateTrailingStop]
  unfold observed
  split_ifs
  · exact kept state
  · exact kept (SymbolState.reset (barDate bar))

theorem move_onSymbolBar (config : Config) (bar : Domain.Bar) (state : SymbolState) :
    Move config.style config.limits bar
      (if state.currentDate = some (barDate bar) then standing state else .empty)
      (config.onSymbolBar bar state).1 (standing (config.onSymbolBar bar state).2) := by
  rw [← config.standing_observed]
  refine move_exitOrEnter Position.side _ ?_ ?_ ?_
  · exact fun held intent _ exiting => exits_of_checkExit exiting
  · exact fun held late => checkExit_of_late late held
  · intro intent opened found
    obtain ⟨allowed, entering, _⟩ := entry_cases found
    obtain ⟨_, _, spare, fromEarliest, untilLatest, _⟩ := canEnter_iff.mp allowed
    exact ⟨(checkEntry_cases entering).1, spare, fromEarliest, untilLatest⟩

def limited (config : Config) : LimitedMachine SymbolState :=
  { machine := config.machine
    style := config.style
    quantity_pos := config.quantity_pos
    limits := config.limits
    day := SymbolState.currentDate
    standing := standing
    start_day := rfl
    start_standing := rfl
    dated := fun _ state => day_today SymbolState.currentDate state rfl
    move := config.move_onSymbolBar }

end Config

/-! ### Concrete runs -/

/-- A window of two bars, for concrete runs. -/
def shortWindow : Config :=
  { quantity := 1
    quantity_pos := Int.zero_lt_one
    momentumWindowMinutes := 2
    window_pos := Nat.two_pos
    minBarsBeforeSignal := 3
    one_le_trades := Nat.one_pos }

/-- The window, and a bar that extends its move. -/
def risingBars : List Domain.Bar :=
  [flatBar "INFY" 35400000000 100, flatBar "INFY" 35460000000 101,
    flatBar "INFY" 35520000000 102]

end TradingEngine.FirstHourMomentum
