/-
`OpeningRangeBreakoutStrategy`.

The bars of the first minutes give a range and are answered with nothing.  From then on a bar
that breaks out of the range upwards is bought, and the position is left at the square-off
time, on its stop or on its target.
-/

import TradingEngine.Strategies.IntradayMachine

namespace TradingEngine.OpeningRange

open Domain Intraday
open PairsTrading (barDate barTime)

/-- `ORBConfig` with what `__post_init__` checks; the time of day is in microseconds. -/
structure Config extends OrderTerms where
  strategyId := "orb_v1"
  product := .mis
  quantity := 1
  openingRangeMinutes : ℤ := 15
  targetRMultiple : ℚ := 2
  stopBufferBps : ℚ := 0
  entryBufferBps : ℚ := 0
  squareOffTime : ℤ := 54900000000
  allowReentry : Bool := false
  minutes_pos : 0 < openingRangeMinutes := by decide
  multiple_pos : 0 < targetRMultiple := by norm_num
  stopBuffer_nonneg : 0 ≤ stopBufferBps := by norm_num
  entryBuffer_nonneg : 0 ≤ entryBufferBps := by norm_num

/-- The price fields of `_SymbolState` while it is in a position. -/
structure Position where
  entryPrice : ℚ
  stopPrice : ℚ
  targetPrice : ℚ
deriving DecidableEq

/-- `_SymbolState`.  A position is entered after the opening range only. -/
structure SymbolState where
  currentDate : Option ℤ
  openingRangeHigh : Option ℚ
  openingRangeLow : Option ℚ
  openingRangeComplete : Bool
  enteredToday : Bool
  position : Option Position
  entered_after_range : position ≠ none → openingRangeComplete = true

/-- `reset`. -/
def SymbolState.reset (currentDate : Option ℤ) : SymbolState :=
  { currentDate := currentDate
    openingRangeHigh := none
    openingRangeLow := none
    openingRangeComplete := false
    enteredToday := false
    position := none
    entered_after_range := fun held => absurd rfl held }

/-- The first bar after the opening range marks it complete. -/
def SymbolState.complete (state : SymbolState) : SymbolState :=
  { state with
    openingRangeComplete := true
    entered_after_range := fun _ => rfl }

namespace Config

variable (config : Config)

/-- The time of day at which the opening range ends, `_range_end`. -/
def rangeEnd : ℤ :=
  (33300000000 + config.openingRangeMinutes * 60000000) % 86400000000

def stopPrice (openingRangeLow : ℚ) : ℚ :=
  openingRangeLow - openingRangeLow * config.stopBufferBps / 10000

def entryTrigger (openingRangeHigh : ℚ) : ℚ :=
  openingRangeHigh + openingRangeHigh * config.entryBufferBps / 10000

def accumulate (bar : Domain.Bar) (state : SymbolState) : SymbolState :=
  { state with
    openingRangeHigh :=
      match state.openingRangeHigh with
      | none => some bar.high
      | some high => if high < bar.high then some bar.high else some high
    openingRangeLow :=
      match state.openingRangeLow with
      | none => some bar.low
      | some low => if bar.low < low then some bar.low else some low }

/-- The reason that `_check_exit` finds, by its priority. -/
def exitReason (bar : Domain.Bar) (held : Position) : Option String :=
  if config.squareOffTime ≤ barTime bar then some "orb_square_off"
  else if bar.low ≤ held.stopPrice then some "orb_stop_loss"
  else if held.targetPrice ≤ bar.high then some "orb_target"
  else none

/-- `_check_exit` with `_sell_intent`. -/
def checkExit (bar : Domain.Bar) (held : Position) : Option Intent :=
  (config.exitReason bar held).map (config.intent bar .sell)

/-- `_check_entry`. -/
def checkEntry (bar : Domain.Bar) (state : SymbolState) : Option Intent :=
  match state.openingRangeHigh, state.openingRangeLow with
  | some high, some _ =>
      if config.entryTrigger high ≤ bar.high then
        some (config.intent bar .buy "orb_breakout_long")
      else none
  | _, _ => none

/-- The position at the close of a bar, unless there is no risk in it. -/
def openPosition (bar : Domain.Bar) (openingRangeLow : ℚ) : Option Position :=
  let stopPrice := config.stopPrice openingRangeLow
  let risk := bar.close - stopPrice
  if 0 < risk then
    some
      { entryPrice := bar.close
        stopPrice := stopPrice
        targetPrice := bar.close + config.targetRMultiple * risk }
  else none

def entry (bar : Domain.Bar) (state : SymbolState) : Option (Intent × Position) :=
  if state.enteredToday then none
  else
    match config.checkEntry bar state, state.openingRangeLow with
    | some intent, some low => (config.openPosition bar low).map (Prod.mk intent)
    | _, _ => none

def today (bar : Domain.Bar) (state : SymbolState) : SymbolState :=
  if state.currentDate = some (barDate bar) then state else SymbolState.reset (barDate bar)

/-- `on_bar` after the opening range. -/
def afterRange (bar : Domain.Bar) (state : SymbolState) : List Intent × SymbolState :=
  match state.position with
  | some held =>
      match config.checkExit bar held with
      | some intent =>
          ([intent],
            { state.complete with
              position := none
              enteredToday := if config.allowReentry then false else state.enteredToday
              entered_after_range := fun _ => rfl })
      | none => ([], state.complete)
  | none =>
      match config.entry bar state with
      | some (intent, opened) =>
          ([intent],
            { state.complete with
              position := some opened
              enteredToday := true
              entered_after_range := fun _ => rfl })
      | none => ([], state.complete)

/-- `on_bar` on the state of the bar's symbol. -/
def onSymbolBar (bar : Domain.Bar) (state : SymbolState) : List Intent × SymbolState :=
  let state := today bar state
  if state.openingRangeComplete = false ∧ barTime bar < config.rangeEnd then
    ([], accumulate bar state)
  else config.afterRange bar state

def machine : EventMachine Domain.Bar SymbolState (List Intent) :=
  { start := SymbolState.reset none
    step := config.onSymbolBar }

def strategy : EventMachine Domain.Bar (OrderedDict String SymbolState) (List Intent) :=
  config.machine.keyed Domain.Bar.symbol

/-! ### What a bar does -/

def style : Style :=
  { quantity := config.quantity
    entryReasons := ["orb_breakout_long"] }

/-- The bar finds everything that an entry needs, in the state before it. -/
structure Breakout (bar : Domain.Bar) (state : SymbolState) : Prop where
  sameDay : state.currentDate = some (barDate bar)
  rangeOver : state.openingRangeComplete = true ∨ config.rangeEnd ≤ barTime bar
  flat : state.position = none
  fresh : state.enteredToday = false
  breaks : ∃ high ∈ state.openingRangeHigh, config.entryTrigger high ≤ bar.high
  risks : ∃ low ∈ state.openingRangeLow, config.stopPrice low < bar.close

variable {config} {bar : Domain.Bar} {state : SymbolState}

theorem checkEntry_cases {intent : Intent} (found : config.checkEntry bar state = some intent) :
    intent = config.intent bar .buy "orb_breakout_long" ∧
      ∃ high ∈ state.openingRangeHigh, config.entryTrigger high ≤ bar.high := by
  unfold checkEntry at found
  split at found
  · rename_i high _ highs _
    split_ifs at found with breaks
    cases found
    exact ⟨rfl, high, highs, breaks⟩
  · cases found

theorem openPosition_isSome_iff {low : ℚ} :
    config.openPosition bar low ≠ none ↔ config.stopPrice low < bar.close := by
  unfold openPosition
  dsimp only
  split_ifs with risks
  · exact iff_of_true (Option.some_ne_none _) (sub_pos.mp risks)
  · exact iff_of_false (fun held => held rfl) (fun below => risks (sub_pos.mpr below))

theorem entry_cases {intent : Intent} {opened : Position}
    (found : config.entry bar state = some (intent, opened)) :
    intent = config.intent bar .buy "orb_breakout_long" ∧ state.enteredToday = false ∧
      (∃ high ∈ state.openingRangeHigh, config.entryTrigger high ≤ bar.high) ∧
      ∃ low ∈ state.openingRangeLow, config.stopPrice low < bar.close := by
  unfold entry at found
  split_ifs at found with entered
  split at found
  · rename_i asked low checked lows
    obtain ⟨position, opening, same⟩ := Option.map_eq_some_iff.mp found
    cases same
    obtain ⟨buys, breaks⟩ := checkEntry_cases checked
    have risks := openPosition_isSome_iff.mp (opening ▸ Option.some_ne_none opened)
    exact ⟨buys, Bool.eq_false_of_not_eq_true entered, breaks, low, lows, risks⟩
  · cases found

theorem entry_ne_none (fresh : state.enteredToday = false)
    (breaks : ∃ high ∈ state.openingRangeHigh, config.entryTrigger high ≤ bar.high)
    (risks : ∃ low ∈ state.openingRangeLow, config.stopPrice low < bar.close) :
    config.entry bar state ≠ none := by
  obtain ⟨high, highs, above⟩ := breaks
  obtain ⟨low, lows, below⟩ := risks
  have checked : config.checkEntry bar state =
      some (config.intent bar .buy "orb_breakout_long") := by
    unfold checkEntry
    rw [Option.mem_def.mp highs, Option.mem_def.mp lows]
    exact if_pos above
  obtain ⟨opened, opening⟩ := Option.ne_none_iff_exists'.mp (openPosition_isSome_iff.mpr below)
  unfold entry
  rw [fresh, if_neg Bool.false_ne_true, checked, Option.mem_def.mp lows]
  dsimp only
  rw [opening]
  exact Option.some_ne_none _

theorem exits_of_checkExit {held : Position} {intent : Intent}
    (found : config.checkExit bar held = some intent) :
    config.style.Exits bar .long intent := by
  refine Style.exits_of_map rfl (fun reason exiting => ?_) found
  unfold exitReason at exiting
  split_ifs at exiting
  all_goals
    cases exiting
    simp [style]

theorem checkExit_of_late (late : config.squareOffTime ≤ barTime bar) (held : Position) :
    config.checkExit bar held ≠ none := by
  unfold checkExit exitReason
  rw [if_pos late]
  exact Option.some_ne_none _

/-- The position in the form that the other intraday strategies keep it. -/
def direction (state : SymbolState) : Option Direction :=
  state.position.map (fun _ => .long)

theorem afterRange_of_held (config : Config) (bar : Domain.Bar) {held : Position}
    (position : state.position = some held) :
    (config.afterRange bar state).1 = (config.checkExit bar held).toList ∧
      (config.afterRange bar state).2.position =
        if (config.checkExit bar held).isSome then none else some held := by
  unfold afterRange
  rw [position]
  dsimp only
  cases config.checkExit bar held with
  | some intent => exact ⟨rfl, rfl⟩
  | none => exact ⟨rfl, position⟩

theorem afterRange_of_flat (config : Config) (bar : Domain.Bar) (flat : state.position = none) :
    (config.afterRange bar state).1 = (config.entry bar state).toList.map Prod.fst ∧
      (config.afterRange bar state).2.position = (config.entry bar state).map Prod.snd := by
  unfold afterRange
  rw [flat]
  dsimp only
  cases config.entry bar state with
  | some found => exact ⟨rfl, rfl⟩
  | none => exact ⟨rfl, flat⟩

theorem turn_afterRange (config : Config) (bar : Domain.Bar) (state : SymbolState) :
    Turn config.style bar (direction state) (config.afterRange bar state).1
      (direction (config.afterRange bar state).2) := by
  unfold direction
  cases position : state.position with
  | some held =>
      obtain ⟨answered, after⟩ := config.afterRange_of_held bar position
      rw [answered, after]
      cases exiting : config.checkExit bar held with
      | some intent => exact .exit .long intent (exits_of_checkExit exiting)
      | none => exact .quiet _
  | none =>
      obtain ⟨answered, after⟩ := config.afterRange_of_flat bar position
      rw [answered, after]
      cases entering : config.entry bar state with
      | none => exact .quiet none
      | some found =>
          obtain ⟨intent, opened⟩ := found
          obtain ⟨rfl, _⟩ := entry_cases entering
          exact .enter .long _ (Style.enters_intent rfl .long List.mem_cons_self)

theorem currentDate_afterRange (config : Config) (bar : Domain.Bar) (state : SymbolState) :
    (config.afterRange bar state).2.currentDate = state.currentDate := by
  unfold afterRange
  cases state.position with
  | some held =>
      dsimp only
      cases config.checkExit bar held <;> rfl
  | none =>
      dsimp only
      cases config.entry bar state <;> rfl

theorem direction_today (bar : Domain.Bar) (state : SymbolState) :
    direction (today bar state) =
      if state.currentDate = some (barDate bar) then direction state else none := by
  unfold today
  split_ifs
  · rfl
  · rfl

theorem currentDate_today (bar : Domain.Bar) (state : SymbolState) :
    (today bar state).currentDate = some (barDate bar) :=
  day_today SymbolState.currentDate state rfl

/-- The strategy on one symbol, as a machine that turns its position. -/
def intraday (config : Config) : IntradayMachine SymbolState :=
  { machine := config.machine
    style := config.style
    quantity_pos := config.quantity_pos
    day := SymbolState.currentDate
    held := direction
    start_day := rfl
    start_held := rfl
    dated := fun bar state => by
      change (config.onSymbolBar bar state).2.currentDate = some (barDate bar)
      unfold onSymbolBar
      dsimp only
      split_ifs
      · exact currentDate_today bar state
      · exact (config.currentDate_afterRange bar _).trans (currentDate_today bar state)
    turn := fun bar state => by
      rw [← direction_today]
      change Turn config.style bar _ (config.onSymbolBar bar state).1
        (direction (config.onSymbolBar bar state).2)
      unfold onSymbolBar
      dsimp only
      split_ifs
      · exact .quiet _
      · exact config.turn_afterRange bar _ }

/-! ### The square-off time -/

theorem today_of_sameDay (sameDay : state.currentDate = some (barDate bar)) :
    today bar state = state :=
  if_pos sameDay

theorem onSymbolBar_of_ready
    (ready : (today bar state).openingRangeComplete = true ∨ config.rangeEnd ≤ barTime bar) :
    config.onSymbolBar bar state = config.afterRange bar (today bar state) := by
  refine if_neg (fun building => ?_)
  rcases ready with complete | past
  · exact absurd (building.1.symm.trans complete) Bool.false_ne_true
  · exact not_le.mpr building.2 past

/-- A new day has no range yet, so an entry finds the day of its bar. -/
theorem breakout_of_entry
    (ready : (today bar state).openingRangeComplete = true ∨ config.rangeEnd ≤ barTime bar)
    (flat : (today bar state).position = none)
    (entering : config.entry bar (today bar state) ≠ none) : config.Breakout bar state := by
  obtain ⟨⟨intent, opened⟩, found⟩ := Option.ne_none_iff_exists'.mp entering
  obtain ⟨_, fresh, breaks, risks⟩ := entry_cases found
  have sameDay : state.currentDate = some (barDate bar) := by
    by_contra other
    have newDay : today bar state = SymbolState.reset (barDate bar) := if_neg other
    obtain ⟨high, highs, _⟩ := breaks
    rw [newDay] at highs
    cases highs
  rw [today_of_sameDay sameDay] at ready flat fresh breaks risks
  exact
    { sameDay := sameDay
      rangeOver := ready
      flat := flat
      fresh := fresh
      breaks := breaks
      risks := risks }

theorem exists_entry_iff (config : Config) (bar : Domain.Bar) (state : SymbolState) :
    (∃ intent ∈ (config.onSymbolBar bar state).1, config.style.isEntry intent = true) ↔
      config.Breakout bar state := by
  constructor
  · rintro ⟨intent, member, isEntry⟩
    by_cases building :
        (today bar state).openingRangeComplete = false ∧ barTime bar < config.rangeEnd
    · unfold onSymbolBar at member
      dsimp only at member
      rw [if_pos building] at member
      exact absurd member List.not_mem_nil
    · have ready : (today bar state).openingRangeComplete = true ∨
          config.rangeEnd ≤ barTime bar := by
        rcases not_and_or.mp building with complete | past
        · exact Or.inl (Bool.eq_true_of_not_eq_false complete)
        · exact Or.inr (not_lt.mp past)
      rw [onSymbolBar_of_ready ready] at member
      cases position : (today bar state).position with
      | some held =>
          rw [(config.afterRange_of_held bar position).1] at member
          have exits := exits_of_checkExit (Option.mem_toList.mp member)
          exact absurd (exits.reason.symm.trans isEntry) Bool.false_ne_true
      | none =>
          rw [(config.afterRange_of_flat bar position).1] at member
          obtain ⟨found, entering, _⟩ := List.mem_map.mp member
          refine breakout_of_entry ready position ?_
          exact Option.ne_none_iff_exists'.mpr ⟨found, Option.mem_toList.mp entering⟩
  · intro breakout
    have ready := today_of_sameDay breakout.sameDay ▸ breakout.rangeOver
    obtain ⟨⟨intent, opened⟩, found⟩ := Option.ne_none_iff_exists'.mp
      (config.entry_ne_none breakout.fresh breakout.breaks breakout.risks)
    rw [onSymbolBar_of_ready ready, today_of_sameDay breakout.sameDay,
      (config.afterRange_of_flat bar breakout.flat).1, found]
    obtain ⟨rfl, _⟩ := entry_cases found
    exact ⟨_, List.mem_cons_self, decide_eq_true List.mem_cons_self⟩

theorem position_of_late (late : config.squareOffTime ≤ barTime bar)
    (sameDay : state.currentDate = some (barDate bar)) (isOpen : state.position ≠ none) :
    (config.onSymbolBar bar state).2.position = none := by
  obtain ⟨held, position⟩ := Option.ne_none_iff_exists'.mp isOpen
  have ready : (today bar state).openingRangeComplete = true ∨
      config.rangeEnd ≤ barTime bar := by
    rw [today_of_sameDay sameDay]
    exact Or.inl (state.entered_after_range isOpen)
  rw [onSymbolBar_of_ready ready, today_of_sameDay sameDay,
    (config.afterRange_of_held bar position).2,
    if_pos (Option.isSome_iff_ne_none.mpr (checkExit_of_late late held))]

end Config

end TradingEngine.OpeningRange
