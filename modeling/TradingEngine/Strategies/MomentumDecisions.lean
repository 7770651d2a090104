/-
What the first hour momentum strategy decides, read off the bars of the day.

The window is made of the first bars of the session, and is complete when there are enough of
them.  Its return, its range and its close, the VWAP of the day and the earlier answers of the
day tell what a bar is answered with; an open position has its trailing stop from the bars since
its entry.
-/

import TradingEngine.General.ValueRange
import TradingEngine.Strategies.DayAnswers
import TradingEngine.Strategies.TrailingStop

namespace TradingEngine.FirstHourMomentum

open DayRecords Domain Intraday
open PairsTrading (barDate barTime)

namespace Config

variable (config : Config)

/-! ### The first window of a day -/

def sessionBars (seen : List Domain.Bar) : List Domain.Bar :=
  seen.filter (fun bar => config.sessionStart ≤ barTime bar)

/-- The first bars of the session. -/
def windowBars (seen : List Domain.Bar) : List Domain.Bar :=
  (config.sessionBars seen).take config.momentumWindowMinutes

def WindowOver (seen : List Domain.Bar) : Prop :=
  config.momentumWindowMinutes ≤ (config.sessionBars seen).length

instance (seen : List Domain.Bar) : Decidable (config.WindowOver seen) :=
  inferInstanceAs (Decidable (_ ≤ _))

/-- The bars of a window as the strategy keeps them, without what is computed at its end. -/
def pricesOf (bars : List Domain.Bar) : FirstWindow :=
  { barsInWindow := bars.length
    openPrice := bars.head?.map Domain.Bar.openPrice
    high := (bars.map Domain.Bar.high).max?
    low := (bars.map Domain.Bar.low).min?
    close := bars.getLast?.map Domain.Bar.close
    complete := false
    returnBps := none
    openingRangeBps := none }

/-- The window after the bars of a day; its return and its range are known when it is over. -/
def windowOf (seen : List Domain.Bar) : FirstWindow :=
  let prices := pricesOf (config.windowBars seen)
  if config.WindowOver seen then
    { prices with
      complete := true
      returnBps := prices.firstWindowReturn
      openingRangeBps := prices.openingRange }
  else prices

theorem extend_pricesOf (bars : List Domain.Bar) (bar : Domain.Bar) :
    (pricesOf bars).extend bar = pricesOf (bars ++ [bar]) := by
  unfold pricesOf FirstWindow.extend
  rw [FirstWindow.mk.injEq]
  refine ⟨?_, ?_, ?_, ?_, ?_, rfl, rfl, rfl⟩
  · rw [List.length_append, List.length_singleton]
  · cases bars with
    | nil => rfl
    | cons first rest => rfl
  · rw [List.map_append, List.map_singleton, ValueRange.max?_concat]
    cases (bars.map Domain.Bar.high).max? with
    | none => simp
    | some most => simp [apply_ite some]
  · rw [List.map_append, List.map_singleton, ValueRange.min?_concat]
    cases (bars.map Domain.Bar.low).min? with
    | none => simp
    | some least => simp [apply_ite some]
  · rw [List.getLast?_append, List.getLast?_singleton]
    rfl

variable {config}

theorem sessionBars_concat (seen : List Domain.Bar) (bar : Domain.Bar) :
    config.sessionBars (seen ++ [bar]) =
      if config.sessionStart ≤ barTime bar then config.sessionBars seen ++ [bar]
      else config.sessionBars seen := by
  unfold sessionBars
  rw [List.filter_append, List.filter_singleton]
  split_ifs with inSession
  · rw [decide_eq_true inSession, cond_true]
  · rw [decide_eq_false inSession, cond_false, List.append_nil]

theorem windowBars_of_not_over {seen : List Domain.Bar} (building : ¬ config.WindowOver seen) :
    config.windowBars seen = config.sessionBars seen :=
  List.take_of_length_le (not_le.mp building).le

theorem windowOf_of_over {seen : List Domain.Bar} (over_ : config.WindowOver seen) :
    config.windowOf seen =
      { pricesOf (config.windowBars seen) with
        complete := true
        returnBps := (pricesOf (config.windowBars seen)).firstWindowReturn
        openingRangeBps := (pricesOf (config.windowBars seen)).openingRange } :=
  if_pos over_

theorem windowOf_of_not_over {seen : List Domain.Bar} (building : ¬ config.WindowOver seen) :
    config.windowOf seen = pricesOf (config.sessionBars seen) := by
  rw [← windowBars_of_not_over building]
  exact if_neg building

theorem WindowOver.concat {seen : List Domain.Bar} (over_ : config.WindowOver seen)
    (bar : Domain.Bar) : config.WindowOver (seen ++ [bar]) ∧
      config.windowBars (seen ++ [bar]) = config.windowBars seen := by
  unfold windowBars WindowOver at *
  rw [sessionBars_concat]
  split_ifs
  · refine ⟨?_, List.take_append_of_le_length over_⟩
    rw [List.length_append]
    exact Nat.le_add_right_of_le over_
  · exact ⟨over_, rfl⟩

theorem updateWindow_windowOf (config : Config) (seen : List Domain.Bar) (bar : Domain.Bar) :
    config.updateWindow bar (config.windowOf seen) = config.windowOf (seen ++ [bar]) := by
  by_cases over_ : config.WindowOver seen
  · obtain ⟨later, same⟩ := over_.concat bar
    rw [windowOf_of_over over_, windowOf_of_over later, same]
    rfl
  · rw [windowOf_of_not_over over_]
    have open_ : ¬ (pricesOf (config.sessionBars seen)).complete = true :=
      Bool.false_ne_true
    unfold updateWindow
    rw [if_neg open_]
    by_cases inSession : config.sessionStart ≤ barTime bar
    · have longer : config.sessionBars (seen ++ [bar]) = config.sessionBars seen ++ [bar] := by
        rw [sessionBars_concat, if_pos inSession]
      have count : (config.sessionBars seen ++ [bar]).length =
          (config.sessionBars seen).length + 1 :=
        List.length_append
      rw [if_neg (not_lt.mpr inSession)]
      dsimp only
      rw [extend_pricesOf]
      by_cases ends : config.momentumWindowMinutes ≤ (config.sessionBars seen).length + 1
      · have later : config.WindowOver (seen ++ [bar]) := by
          rw [WindowOver, longer, count]
          exact ends
        have whole : config.windowBars (seen ++ [bar]) = config.sessionBars seen ++ [bar] := by
          unfold WindowOver at over_
          rw [windowBars, longer]
          apply List.take_of_length_le
          omega
        rw [windowOf_of_over later, whole]
        have enough : config.momentumWindowMinutes ≤
            (config.sessionBars seen ++ [bar]).length := by
          rw [count]
          exact ends
        exact if_pos enough
      · have building : ¬ config.WindowOver (seen ++ [bar]) := by
          rw [WindowOver, longer, count]
          exact ends
        rw [windowOf_of_not_over building, longer]
        have short : ¬ config.momentumWindowMinutes ≤
            (config.sessionBars seen ++ [bar]).length := by
          rw [count]
          exact ends
        exact if_neg short
    · have same : config.sessionBars (seen ++ [bar]) = config.sessionBars seen := by
        rw [sessionBars_concat, if_neg inSession]
      have building : ¬ config.WindowOver (seen ++ [bar]) := by
        rw [WindowOver, same]
        exact over_
      rw [if_pos (not_le.mp inSession), windowOf_of_not_over building, same]

/-! ### The answer to a bar -/

variable (config)

/-- The window moved by enough and not by too much. -/
def WindowFits (window : FirstWindow) (range close : ℚ) : Prop :=
  (config.minOpeningRangeBps ≤ range ∧ range ≤ config.maxOpeningRangeBps) ∧
    config.moveTooSmall window close = false ∧ config.rangeTooSmall window = false

/-- The bar goes on in the direction of the window, on the right side of the VWAP. -/
def GoesOn (vwap windowReturn windowClose : ℚ) (bar : Domain.Bar) : Direction → Prop
  | .long => config.minFirstWindowReturnBps ≤ windowReturn ∧ windowClose < bar.close ∧
      (config.requirePriceAboveVwapForLongs = true → vwap < bar.close)
  | .short => config.allowShorts = true ∧ windowReturn ≤ -config.minFirstWindowReturnBps ∧
      bar.close < windowClose ∧
      (config.requirePriceBelowVwapForShorts = true → bar.close < vwap)

instance (vwap windowReturn windowClose : ℚ) (bar : Domain.Bar) (direction : Direction) :
    Decidable (config.GoesOn vwap windowReturn windowClose bar direction) := by
  unfold GoesOn
  split <;> infer_instance

instance (window : FirstWindow) (range close : ℚ) :
    Decidable (config.WindowFits window range close) :=
  inferInstanceAs (Decidable (_ ∧ _))

/-- The bar, the last one of these of its day, calls for an entry. -/
def Calls (seen : List Domain.Bar) (bar : Domain.Bar) (direction : Direction) : Prop :=
  ∃ windowReturn ∈ (config.windowOf seen).returnBps,
    ∃ range ∈ (config.windowOf seen).openingRangeBps,
      ∃ close ∈ (config.windowOf seen).close,
        config.WindowFits (config.windowOf seen) range close ∧
          config.GoesOn (dayVwap seen) windowReturn close bar direction

instance (seen : List Domain.Bar) (bar : Domain.Bar) (direction : Direction) :
    Decidable (config.Calls seen bar direction) :=
  inferInstanceAs (Decidable (∃ _ ∈ _, _))

variable {config}

theorem calls_iff {seen : List Domain.Bar} {windowReturn range close : ℚ}
    (returned : (config.windowOf seen).returnBps = some windowReturn)
    (ranged : (config.windowOf seen).openingRangeBps = some range)
    (closed : (config.windowOf seen).close = some close) (bar : Domain.Bar)
    (direction : Direction) :
    config.Calls seen bar direction ↔ config.WindowFits (config.windowOf seen) range close ∧
      config.GoesOn (dayVwap seen) windowReturn close bar direction := by
  unfold Calls
  rw [returned, ranged, closed]
  simp

theorem checkEntry_eq {seen : List Domain.Bar} {bar : Domain.Bar} {state : SymbolState}
    (window : state.window = config.windowOf seen)
    (vwap : state.session.vwap = some (dayVwap seen)) :
    config.checkEntry bar state =
      if config.Calls seen bar .long then some (config.intent bar .buy "fhm_long_entry", .long)
      else if config.Calls seen bar .short then
        some (config.intent bar .sell "fhm_short_entry", .short)
      else none := by
  have unmeasured (silent : ∀ direction, ¬ config.Calls seen bar direction)
      (unfound : config.checkEntry bar state = none) : config.checkEntry bar state =
        if config.Calls seen bar .long then some (config.intent bar .buy "fhm_long_entry", .long)
        else if config.Calls seen bar .short then
          some (config.intent bar .sell "fhm_short_entry", .short)
        else none := by
    rw [if_neg (silent .long), if_neg (silent .short), unfound]
  cases returned : (config.windowOf seen).returnBps with
  | none =>
      apply unmeasured
      · intro direction ⟨_, found, _⟩
        exact nomatch returned.symm.trans found
      · rw [checkEntry, window, returned]
  | some windowReturn =>
      cases ranged : (config.windowOf seen).openingRangeBps with
      | none =>
          apply unmeasured
          · intro direction ⟨_, _, _, found, _⟩
            exact nomatch ranged.symm.trans found
          · rw [checkEntry, window, returned, ranged]
      | some range =>
          cases closed : (config.windowOf seen).close with
          | none =>
              apply unmeasured
              · intro direction ⟨_, _, _, _, _, found, _⟩
                exact nomatch closed.symm.trans found
              · rw [checkEntry, window, returned, ranged, closed]
          | some close =>
              have positive := config.return_pos
              rw [checkEntry, window, returned, ranged, closed, vwap]
              simp only [calls_iff returned ranged closed, WindowFits, GoesOn, Option.mem_def,
                Option.some.injEq, forall_eq']
              grind

variable (config)

/-- In the entry window, with a spare entry, and with enough bars of the day. -/
def MayEnter (record : List (Domain.Bar × List Intent)) (bar : Domain.Bar) : Prop :=
  config.WindowOver (record.map Prod.fst ++ [bar]) ∧
    config.style.entriesIn record < config.maxTradesPerSymbolPerDay ∧
    config.earliestEntryTime ≤ barTime bar ∧ barTime bar ≤ config.latestEntryTime ∧
    config.minBarsBeforeSignal ≤ record.length + 1

instance (record : List (Domain.Bar × List Intent)) (bar : Domain.Bar) :
    Decidable (config.MayEnter record bar) :=
  inferInstanceAs (Decidable (_ ∧ _))

/-- The entry that a bar calls for when nothing is held. -/
def entryOn (record : List (Domain.Bar × List Intent)) (bar : Domain.Bar) : Option Intent :=
  if config.MayEnter record bar then
    if config.Calls (record.map Prod.fst ++ [bar]) bar .long then
      some (config.intent bar .buy "fhm_long_entry")
    else if config.Calls (record.map Prod.fst ++ [bar]) bar .short then
      some (config.intent bar .sell "fhm_short_entry")
    else none
  else none

def opens (bar : Domain.Bar) (intent : Intent) : Position :=
  config.openPosition bar intent.direction

/-- The open position, its trailing stop moved by every bar since the entry. -/
def held (record : List (Domain.Bar × List Intent)) : Option Position :=
  config.style.heldBy config.opens config.updateTrailingStop record

def answerTo (record : List (Domain.Bar × List Intent)) (bar : Domain.Bar) : List Intent :=
  ((config.held record).map (config.updateTrailingStop bar)).elim
    (config.entryOn record bar).toList (fun held => (config.checkExit bar held).toList)

structure Tracks (state : SymbolState) (record : List (Domain.Bar × List Intent)) : Prop where
  session : state.session = sessionOf (record.map Prod.fst)
  window : state.window = config.windowOf (record.map Prod.fst)
  barsSeen : state.barsSeenToday = record.length
  position : state.position = config.held record
  trades : state.tradesTakenToday = config.style.entriesIn record

variable {config} {record : List (Domain.Bar × List Intent)} {bar : Domain.Bar}

theorem tracks_reset (config : Config) (date : ℤ) :
    config.Tracks (SymbolState.reset date) [] where
  session := rfl
  window := by
    have building : ¬ config.WindowOver [] := not_le.mpr config.window_pos
    exact (windowOf_of_not_over building).symm
  barsSeen := rfl
  position := rfl
  trades := rfl

theorem entry_eq {seen : SymbolState} (flat : seen.position = none)
    (vwap : seen.session.vwap = some (dayVwap (record.map Prod.fst ++ [bar])))
    (window : seen.window = config.windowOf (record.map Prod.fst ++ [bar]))
    (barsSeen : seen.barsSeenToday = record.length + 1)
    (trades : seen.tradesTakenToday = config.style.entriesIn record) :
    (config.entry bar seen).map Prod.fst = config.entryOn record bar := by
  have complete : seen.window.complete = true ↔
      config.WindowOver (record.map Prod.fst ++ [bar]) := by
    rw [window]
    by_cases over_ : config.WindowOver (record.map Prod.fst ++ [bar])
    · rw [windowOf_of_over over_]
      exact iff_of_true rfl over_
    · rw [windowOf_of_not_over over_]
      exact iff_of_false Bool.false_ne_true over_
  have allowed : config.canEnter (barTime bar) seen = true ↔ config.MayEnter record bar := by
    rw [canEnter_iff, complete, flat, barsSeen, trades, vwap]
    unfold MayEnter
    simp
  unfold entry entryOn
  rw [checkEntry_eq window vwap]
  by_cases may : config.MayEnter record bar
  · rw [if_pos may, if_pos (allowed.mpr may)]
    split_ifs
    · rfl
    · rfl
    · rfl
  · rw [if_neg may, if_neg (fun can => may (allowed.mp can))]
    rfl

theorem opened_of_entry {seen : SymbolState} {intent : Intent} {opened : Position}
    (found : config.entry bar seen = some (intent, opened)) :
    config.style.isEntry intent = true ∧ opened = config.opens bar intent := by
  obtain ⟨_, entering, same⟩ := entry_cases found
  have enters := (checkEntry_cases entering).1
  exact ⟨enters.reason, by rw [opens, enters.direction, ← same]⟩

theorem Tracks.step {today state : SymbolState} (tracks : config.Tracks today record)
    (observed : config.observed bar state =
      { today with
        session := today.session.update bar
        window := config.updateWindow bar today.window
        barsSeenToday := today.barsSeenToday + 1
        position := today.position.map (config.updateTrailingStop bar) }) :
    (config.onSymbolBar bar state).1 = config.answerTo record bar ∧
      config.Tracks (config.onSymbolBar bar state).2
        (record ++ [(bar, config.answerTo record bar)]) := by
  have session : (config.observed bar state).session =
      sessionOf (record.map Prod.fst ++ [bar]) := by
    rw [observed, ← sessionOf_concat, ← tracks.session]
  have window : (config.observed bar state).window =
      config.windowOf (record.map Prod.fst ++ [bar]) := by
    rw [observed, ← updateWindow_windowOf, ← tracks.window]
  have barsSeen : (config.observed bar state).barsSeenToday = record.length + 1 := by
    rw [observed, ← tracks.barsSeen]
  have trades : (config.observed bar state).tradesTakenToday = config.style.entriesIn record := by
    rw [observed]
    exact tracks.trades
  have position : (config.observed bar state).position =
      (config.held record).map (config.updateTrailingStop bar) := by
    rw [observed, ← tracks.position]
  unfold onSymbolBar
  dsimp only
  generalize config.observed bar state = seen at session window barsSeen trades position ⊢
  have vwap : seen.session.vwap = some (dayVwap (record.map Prod.fst ++ [bar])) := by
    rw [session, vwap_sessionOf_concat]
  have answer : (exitOrEnter seen.position (config.checkExit bar)
      (config.entry bar seen)).intents = config.answerTo record bar := by
    rw [Style.intents_exitOrEnter, answerTo, ← position]
    cases flat : seen.position with
    | some held => rfl
    | none =>
        dsimp only [Option.elim_none]
        rw [entry_eq flat vwap window barsSeen trades]
  obtain ⟨after, counted⟩ := Style.tracked_exitOrEnter position
    (fun held intent exiting => (exits_of_checkExit exiting).reason)
    (fun intent opened found => opened_of_entry found)
  rw [answer] at after counted
  have bars : (record ++ [(bar, config.answerTo record bar)]).map Prod.fst =
      record.map Prod.fst ++ [bar] := by
    rw [List.map_append, List.map_singleton]
  refine ⟨answer, ?_⟩
  constructor
  · rw [bars, ← session]
  · rw [bars, ← window]
  · rw [List.length_append, List.length_singleton]
    exact barsSeen
  · exact after
  · rw [← counted, trades]

/-! ### Days -/

theorem answering (config : Config) : Answering config.machine barDate SymbolState.currentDate
    config.Tracks config.answerTo where
  start := rfl
  dated := config.limited.dated
  opens := by
    intro bar state other
    refine (config.tracks_reset (barDate bar)).step ?_
    unfold observed
    rw [if_neg other]
  extends_ := by
    intro bar state record same tracks
    refine tracks.step ?_
    unfold observed
    rw [if_pos same]

/-- Fed with the bars of any symbols in the order of their days, the strategy answers every
bar as the first window, the VWAP and the answers of its symbol and its day call for. -/
theorem answers_firstWindow (config : Config) {bars : List Domain.Bar}
    (ordered : bars.Pairwise (fun earlier later => earlier.timestamp ≤ later.timestamp))
    (symbol : String) (d : ℤ) :
    Answered config.answerTo (dayRecord (config.strategy.calls bars) symbol d) :=
  answered_day config.answering ordered symbol d

end Config

/-! ### A trailing stop -/

/-- The rising bars, one more, and a fall below the stop that it has raised. -/
def trailedBars : List Domain.Bar :=
  risingBars ++ [flatBar "INFY" 35580000000 103, flatBar "INFY" 35640000000 102]

/-- Bought when the window is over, and sold by the trailing stop of the highest price. -/
theorem trailedBars_answered :
    (trailingConfig.strategy.calls trailedBars).map (fun call => call.2.map Intent.reason) =
      [[], [], ["fhm_long_entry"], [], ["fhm_trailing_stop"]] ∧
    Answered trailingConfig.answerTo
      (dayRecord (trailingConfig.strategy.calls trailedBars) "INFY" 0) := by
  have ordered : trailedBars.Pairwise
      (fun earlier later => earlier.timestamp ≤ later.timestamp) := by
    decide
  exact ⟨by decide +kernel, trailingConfig.answers_firstWindow ordered "INFY" 0⟩

end TradingEngine.FirstHourMomentum
