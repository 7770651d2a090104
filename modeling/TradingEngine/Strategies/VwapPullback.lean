/-
`VWAPTrendPullbackStrategy`.

The VWAP of the session must have risen over a lookback.  A bar that touches it and is
confirmed is bought, and the position is left on its stop, its target or at the square-off
time.
-/

import TradingEngine.Strategies.IntradayMachine

namespace TradingEngine.VwapPullback

open Domain Intraday
open PairsTrading (barDate barTime)

inductive ConfirmationMode where
  | closeAbovePriorHigh
  | closeAboveVwap
deriving DecidableEq

/-- `VWAPPullbackConfig` with what `__post_init__` checks; times of day are in
microseconds. -/
structure Config extends OrderTerms where
  strategyId := "vwap_pullback_v1"
  noTradeBefore : ℤ := 34200000000
  noNewEntriesAfter : ℤ := 52200000000
  squareOffTime : ℤ := 54900000000
  vwapSlopeLookbackBars : ℕ := 5
  minBarsBeforeTrading : ℕ := 15
  pullbackToleranceBps : ℚ := 20
  confirmationMode : ConfirmationMode := .closeAbovePriorHigh
  stopLossBps : ℚ := 40
  targetBps : ℚ := 80
  maxTradesPerSymbolPerDay : ℕ := 1
  allowReentry : Bool := false
  stopLoss_pos : 0 < stopLossBps := by norm_num
  target_pos : 0 < targetBps := by norm_num
  tolerance_nonneg : 0 ≤ pullbackToleranceBps := by norm_num
  one_le_lookback : 1 ≤ vwapSlopeLookbackBars := by decide
  lookback_le_bars : vwapSlopeLookbackBars ≤ minBarsBeforeTrading := by decide
  one_le_trades : 1 ≤ maxTradesPerSymbolPerDay := by decide
  noNewEntries_lt_squareOff : noNewEntriesAfter < squareOffTime := by decide
  noTrade_lt_noNewEntries : noTradeBefore < noNewEntriesAfter := by decide

/-- The position fields of `_SymbolState`. -/
structure Position where
  entryPrice : ℚ
  stopPrice : ℚ
  targetPrice : ℚ
deriving DecidableEq

/-- `_SymbolState`. -/
structure SymbolState where
  currentDate : Option ℤ
  session : SessionVwap
  vwapHistory : List ℚ
  barsSeenToday : ℕ
  prevBarHigh : Option ℚ
  position : Option Position
  enteredToday : Bool
  tradesTakenToday : ℕ
deriving DecidableEq

def SymbolState.start : SymbolState :=
  { currentDate := none
    session := SessionVwap.start
    vwapHistory := []
    barsSeenToday := 0
    prevBarHigh := none
    position := none
    enteredToday := false
    tradesTakenToday := 0 }

/-- `reset`. -/
def SymbolState.reset (newDate : ℤ) : SymbolState :=
  { SymbolState.start with currentDate := some newDate }

namespace Config

variable (config : Config)

def style : Style :=
  { quantity := config.quantity
    entryReasons := ["vwap_pullback_long"] }

def limits : Limits :=
  { maxTrades := config.maxTradesPerSymbolPerDay
    earliest := config.noTradeBefore
    latest := config.noNewEntriesAfter
    squareOff := config.squareOffTime
    latest_lt_squareOff := config.noNewEntries_lt_squareOff }

/-- The history part of `_update_vwap`. -/
def extendHistory (session : SessionVwap) (history : List ℚ) : List ℚ :=
  let extended := history ++ session.vwap.toList
  extended.drop (extended.length - (config.vwapSlopeLookbackBars * 3 + 5))

/-- `_vwap_slope_positive`. -/
def vwapSlopePositive (history : List ℚ) : Bool :=
  match history.getLast?, history[history.length - config.vwapSlopeLookbackBars]? with
  | some newest, some oldest =>
      config.vwapSlopeLookbackBars ≤ history.length && oldest < newest
  | _, _ => false

/-- `_can_enter`. -/
def canEnter (time : ℤ) (state : SymbolState) : Bool :=
  state.position.isNone && !state.enteredToday &&
    state.tradesTakenToday < config.maxTradesPerSymbolPerDay &&
    config.noTradeBefore ≤ time && time ≤ config.noNewEntriesAfter &&
    config.minBarsBeforeTrading ≤ state.barsSeenToday && state.session.vwap.isSome

/-- `_confirmed`. -/
def confirmed (bar : Domain.Bar) (state : SymbolState) : Bool :=
  match config.confirmationMode with
  | .closeAbovePriorHigh => state.prevBarHigh.any (fun high => high < bar.close)
  | .closeAboveVwap => state.session.vwap.any (fun vwap => vwap < bar.close)

/-- `_check_entry`. -/
def checkEntry (bar : Domain.Bar) (state : SymbolState) : Option Intent :=
  match state.session.vwap with
  | none => none
  | some vwap =>
      if vwap = 0 then none
      else if bar.close ≤ vwap then none
      else if ¬ config.vwapSlopePositive state.vwapHistory then none
      else if vwap * (1 + fraction config.pullbackToleranceBps) < bar.low then none
      else if ¬ config.confirmed bar state then none
      else some (config.intent bar .buy "vwap_pullback_long")

def openPosition (bar : Domain.Bar) : Position :=
  { entryPrice := bar.close
    stopPrice := bar.close * (1 - fraction config.stopLossBps)
    targetPrice := bar.close * (1 + fraction config.targetBps) }

/-- The reason that `_check_exit` finds; the square-off comes first here. -/
def exitReason (bar : Domain.Bar) (held : Position) : Option String :=
  if config.squareOffTime ≤ barTime bar then some "vwap_square_off"
  else if bar.low ≤ held.stopPrice ∧ held.targetPrice ≤ bar.high then some "vwap_stop_loss"
  else if bar.low ≤ held.stopPrice then some "vwap_stop_loss"
  else if held.targetPrice ≤ bar.high then some "vwap_target"
  else none

/-- `_check_exit` with `_sell_intent`. -/
def checkExit (bar : Domain.Bar) (held : Position) : Option Intent :=
  (config.exitReason bar held).map (config.intent bar .sell)

/-- The state that the exit and entry checks of a bar see. -/
def observed (bar : Domain.Bar) (state : SymbolState) : SymbolState :=
  let today :=
    if state.currentDate = some (barDate bar) then state else SymbolState.reset (barDate bar)
  let session := today.session.update bar
  { today with
    session := session
    vwapHistory := config.extendHistory session today.vwapHistory
    barsSeenToday := today.barsSeenToday + 1 }

def entry (bar : Domain.Bar) (state : SymbolState) : Option (Intent × Position) :=
  if config.canEnter (barTime bar) state then
    (config.checkEntry bar state).map (fun intent => (intent, config.openPosition bar))
  else none

/-- `entered_today` after the bar: an exit forgets the entry when re-entry is allowed. -/
def enteredAfter (entered : Bool) : BarAction Position → Bool
  | .wait => entered
  | .exit _ => if config.allowReentry then false else entered
  | .enter _ _ => true

/-- `on_bar` on the state of the bar's symbol. -/
def onSymbolBar (bar : Domain.Bar) (state : SymbolState) : List Intent × SymbolState :=
  let seen := config.observed bar state
  let action := exitOrEnter seen.position (config.checkExit bar) (config.entry bar seen)
  (action.intents,
    { seen with
      prevBarHigh := some bar.high
      position := action.position seen.position
      enteredToday := config.enteredAfter seen.enteredToday action
      tradesTakenToday := action.tradesTaken seen.tradesTakenToday })

def machine : EventMachine Domain.Bar SymbolState (List Intent) :=
  { start := SymbolState.start
    step := config.onSymbolBar }

def strategy : EventMachine Domain.Bar (OrderedDict String SymbolState) (List Intent) :=
  config.machine.keyed Domain.Bar.symbol

/-! ### Limits -/

variable {config} {bar : Domain.Bar} {state : SymbolState}

theorem enters_of_checkEntry {intent : Intent}
    (found : config.checkEntry bar state = some intent) :
    config.style.Enters bar .long intent := by
  unfold checkEntry at found
  split at found
  · cases found
  · split_ifs at found
    cases found
    exact Style.enters_intent rfl .long List.mem_cons_self

theorem exits_of_checkExit {held : Position} {intent : Intent}
    (found : config.checkExit bar held = some intent) :
    config.style.Exits bar .long intent := by
  refine Style.exits_of_map rfl (fun reason exiting => ?_) found
  unfold exitReason at exiting
  split_ifs at exiting
  all_goals
    cases exiting
    simp [style]

theorem checkExit_of_late (late : config.squareOffTime ≤ barTime bar) (held : Position) :
    config.checkExit bar held ≠ none := by
  unfold checkExit exitReason
  rw [if_pos late]
  exact Option.some_ne_none _

theorem canEnter_iff {time : ℤ} : config.canEnter time state = true ↔
    state.position = none ∧ state.enteredToday = false ∧
      state.tradesTakenToday < config.maxTradesPerSymbolPerDay ∧
      config.noTradeBefore ≤ time ∧ time ≤ config.noNewEntriesAfter ∧
      config.minBarsBeforeTrading ≤ state.barsSeenToday ∧
      state.session.vwap.isSome = true := by
  simp [canEnter, and_assoc]

theorem entry_cases {intent : Intent} {opened : Position}
    (found : config.entry bar state = some (intent, opened)) :
    config.canEnter (barTime bar) state = true ∧
      config.checkEntry bar state = some intent := by
  unfold entry at found
  split_ifs at found with allowed
  obtain ⟨chosen, entering, same⟩ := Option.map_eq_some_iff.mp found
  cases same
  exact ⟨allowed, entering⟩

/-- The position, always a long one, and the entries of the day. -/
def standing (state : SymbolState) : Standing :=
  { held := state.position.map (fun _ => .long)
    trades := state.tradesTakenToday }

theorem standing_observed (config : Config) (bar : Domain.Bar) (state : SymbolState) :
    standing (config.observed bar state) =
      if state.currentDate = some (barDate bar) then standing state else .empty := by
  unfold observed
  split_ifs
  · rfl
  · rfl

theorem move_onSymbolBar (config : Config) (bar : Domain.Bar) (state : SymbolState) :
    Move config.style config.limits bar
      (if state.currentDate = some (barDate bar) then standing state else .empty)
      (config.onSymbolBar bar state).1 (standing (config.onSymbolBar bar state).2) := by
  rw [← config.standing_observed]
  refine move_exitOrEnter (fun _ => .long) _ ?_ ?_ ?_
  · exact fun held intent _ exiting => exits_of_checkExit exiting
  · exact fun held late => checkExit_of_late late held
  · intro intent opened found
    obtain ⟨allowed, entering⟩ := entry_cases found
    obtain ⟨_, _, spare, fromEarliest, untilLatest, _⟩ := canEnter_iff.mp allowed
    exact ⟨enters_of_checkEntry entering, spare, fromEarliest, untilLatest⟩

def limited (config : Config) : LimitedMachine SymbolState :=
  { machine := config.machine
    style := config.style
    quantity_pos := config.quantity_pos
    limits := config.limits
    day := SymbolState.currentDate
    standing := standing
    start_day := rfl
    start_standing := rfl
    dated := fun _ state => day_today SymbolState.currentDate state rfl
    move := config.move_onSymbolBar }

end Config

end TradingEngine.VwapPullback
