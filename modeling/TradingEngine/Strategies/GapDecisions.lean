/-
What the two gap strategies decide, read off the bars of the day and the close before it.

The first bar of the session is measured against the last close of the days before, and
qualifies the day for one direction or for none.  From then on the answers of a day follow from
its bars and its own earlier answers.
-/

import TradingEngine.Strategies.DayAnswers
import TradingEngine.Strategies.GapContinuation
import TradingEngine.Strategies.OvernightPositions

namespace TradingEngine.OpeningGap

open Domain Intraday
open PairsTrading (barDate barTime)

/-! ### The gap of a day -/

/-- The close that the days before leave behind. -/
def lastClose (earlier : List Domain.Bar) : Option ℚ :=
  earlier.getLast?.map Domain.Bar.close

namespace Settings

variable (settings : Settings)

/-- The first bar of the session. -/
def openingBar (seen : List Domain.Bar) : Option Domain.Bar :=
  seen.find? (fun bar => settings.sessionStart ≤ barTime bar)

/-- What the strategies know of the gap after the bars of a day. -/
def gapOf (priorClose : Option ℚ) (seen : List Domain.Bar) : GapState :=
  { priorClose := priorClose
    lastClose := lastClose seen
    openingPrice := (settings.openingBar seen).map Domain.Bar.openPrice
    direction := (settings.openingBar seen).bind (fun bar =>
      priorClose.bind (settings.qualify bar.openPrice bar.volume)) }

variable {settings}

theorem openingBar_concat (seen : List Domain.Bar) (bar : Domain.Bar) :
    settings.openingBar (seen ++ [bar]) =
      (settings.openingBar seen).or
        (if settings.sessionStart ≤ barTime bar then some bar else none) := by
  unfold openingBar
  rw [List.find?_append, List.find?_singleton]
  simp only [decide_eq_true_eq]

theorem gapOf_concat (priorClose : Option ℚ) (seen : List Domain.Bar) (bar : Domain.Bar) :
    settings.observe bar (settings.gapOf priorClose seen) =
      settings.gapOf priorClose (seen ++ [bar]) := by
  have closed : lastClose (seen ++ [bar]) = some bar.close := by
    unfold lastClose
    rw [List.getLast?_append, List.getLast?_singleton]
    rfl
  unfold observe gapOf processOpeningBar
  rw [openingBar_concat, closed]
  cases settings.openingBar seen with
  | some first => rfl
  | none =>
      by_cases inSession : settings.sessionStart ≤ barTime bar
      · simp [inSession]
      · simp [inSession]

theorem lastClose_observe (bar : Domain.Bar) (gap : GapState) :
    (settings.observe bar gap).lastClose = some bar.close := by
  unfold observe
  dsimp only
  split_ifs
  · rfl
  · rfl

theorem gapOf_concat_of_open {seen : List Domain.Bar} (opened : settings.openingBar seen ≠ none)
    (priorClose : Option ℚ) (bar : Domain.Bar) :
    settings.gapOf priorClose (seen ++ [bar]) =
      { settings.gapOf priorClose seen with lastClose := some bar.close } := by
  obtain ⟨first, found⟩ := Option.ne_none_iff_exists'.mp opened
  rw [← gapOf_concat]
  unfold observe gapOf
  rw [found]
  rfl

end Settings

theorem openingBar_of_openingPrice {settings : Settings} {priorClose : Option ℚ}
    {seen : List Domain.Bar}
    (opened : (settings.gapOf priorClose seen).openingPrice.isSome = true) :
    settings.openingBar seen ≠ none := by
  intro none_
  unfold Settings.gapOf at opened
  rw [none_] at opened
  cases opened

/-- The opening price of a qualified day with its direction, in time for an entry. -/
def chance (limits : Limits) (style : Style) (settings : Settings) (priorClose : Option ℚ)
    (record : List (Domain.Bar × List Intent)) (bar : Domain.Bar) : Option (ℚ × Direction) :=
  if style.entriesIn record < limits.maxTrades ∧ limits.earliest ≤ barTime bar ∧
      barTime bar ≤ limits.latest then
    (settings.openingBar (record.map Prod.fst ++ [bar])).bind (fun first =>
      (priorClose.bind (settings.qualify first.openPrice first.volume)).map
        (Prod.mk first.openPrice))
  else none

theorem chance_eq {limits : Limits} {style : Style} {settings : Settings}
    {priorClose : Option ℚ} {record : List (Domain.Bar × List Intent)} {bar : Domain.Bar}
    {gap : GapState} (same : gap = settings.gapOf priorClose (record.map Prod.fst ++ [bar])) :
    chance limits style settings priorClose record bar =
      if canEnter limits (barTime bar) gap true (style.entriesIn record) then
        gap.openingPrice.bind (fun price => gap.direction.map (Prod.mk price))
      else none := by
  subst same
  unfold chance canEnter Settings.gapOf
  cases settings.openingBar (record.map Prod.fst ++ [bar]) with
  | none => simp
  | some first =>
      simp only [Option.map_some, Option.bind_some]
      cases priorClose.bind (settings.qualify first.openPrice first.volume) with
      | none => simp
      | some direction => simp [and_assoc]

/-! ### The side that the gap decides -/

/-- The settings take a gap of this day in a direction. -/
def Takes (settings : Settings) (priorClose : Option ℚ) (day : List Domain.Bar)
    (direction : Direction) : Prop :=
  ∃ first ∈ settings.openingBar day, ∃ close ∈ priorClose,
    (0 < (first.openPrice / close - 1) * 10000 ∧ settings.onGapUp = some direction) ∨
      ((first.openPrice / close - 1) * 10000 < 0 ∧ settings.onGapDown = some direction)

theorem takes_of_chance {limits : Limits} {style : Style} {settings : Settings}
    {priorClose : Option ℚ} {record : List (Domain.Bar × List Intent)} {bar : Domain.Bar}
    {price : ℚ} {direction : Direction} {day : List Domain.Bar}
    (upTo : record.map Prod.fst ++ [bar] <+: day)
    (found : chance limits style settings priorClose record bar = some (price, direction)) :
    Takes settings priorClose day direction := by
  obtain ⟨_, qualified⟩ := Option.ite_none_right_eq_some.mp found
  obtain ⟨first, opening, directed⟩ := Option.bind_eq_some_iff.mp qualified
  obtain ⟨_, measured, same⟩ := Option.map_eq_some_iff.mp directed
  cases same
  obtain ⟨close, closed, qualifies⟩ := Option.bind_eq_some_iff.mp measured
  obtain ⟨later, rfl⟩ := upTo
  refine ⟨first, ?_, close, closed, ?_⟩
  · unfold Settings.openingBar at opening ⊢
    rw [List.find?_append, opening]
    rfl
  · unfold Settings.qualify at qualifies
    dsimp only at qualifies
    split_ifs at qualifies with _ _ _ _ up down
    · exact Or.inl ⟨up, qualifies⟩
    · exact Or.inr ⟨down, qualifies⟩

theorem takes_of_answered {limits : Limits} {style : Style} {settings : Settings}
    {priorClose : Option ℚ} {answerTo : List (Domain.Bar × List Intent) → Domain.Bar → List Intent}
    (entering : ∀ record bar, ∀ intent ∈ answerTo record bar, style.isEntry intent = true →
      ∃ price, chance limits style settings priorClose record bar = some (price, intent.direction))
    {record : List (Domain.Bar × List Intent)} (answered : DayRecords.Answered answerTo record)
    {intent : Intent} (member : intent ∈ intentsOf record)
    (entry : style.isEntry intent = true) :
    Takes settings priorClose (record.map Prod.fst) intent.direction := by
  obtain ⟨call, called, traded⟩ := List.mem_flatMap.mp member
  obtain ⟨earlier, later, split⟩ := List.append_of_mem called
  have upTo : earlier ++ [(call.1, call.2)] <+: record := by
    rw [split]
    exact ⟨later, List.append_assoc _ _ _⟩
  rw [answered earlier call.1 call.2 upTo] at traded
  obtain ⟨price, found⟩ := entering earlier call.1 intent traded entry
  refine takes_of_chance ?_ found
  have bars := upTo.map Prod.fst
  rwa [List.map_append, List.map_singleton] at bars

end TradingEngine.OpeningGap

/-! ### Fading the gap -/

namespace TradingEngine.GapFade.Config

open DayRecords Domain Intraday OpeningGap
open PairsTrading (barDate barTime)

variable (config : Config)

def opens (priorClose : Option ℚ) (seen : List Domain.Bar) (bar : Domain.Bar) (intent : Intent) :
    Position :=
  config.openPosition bar intent.direction (config.settings.gapOf priorClose seen)

def held (priorClose : Option ℚ) (seen : List Domain.Bar)
    (record : List (Domain.Bar × List Intent)) : Option Position :=
  config.style.heldBy (config.opens priorClose seen) (fun _bar held => held) record

/-- The price has turned, and stands on the right side of the VWAP if that is asked for. -/
def Turned (bar : Domain.Bar) (vwap openingPrice : ℚ) (direction : Direction) : Prop :=
  triggered direction bar openingPrice config.fadeTriggerBps = true ∧
    (config.requireVwapConfirmation = true → vwapConfirms direction bar (some vwap) = true)

instance (bar : Domain.Bar) (vwap openingPrice : ℚ) (direction : Direction) :
    Decidable (config.Turned bar vwap openingPrice direction) :=
  inferInstanceAs (Decidable (_ ∧ _))

/-- The entry that a bar calls for when nothing is held. -/
def entryOn (priorClose : Option ℚ) (record : List (Domain.Bar × List Intent))
    (bar : Domain.Bar) : Option Intent :=
  (chance config.limits config.style config.settings priorClose record bar).bind (fun found =>
    if config.Turned bar (dayVwap (record.map Prod.fst ++ [bar])) found.1 found.2 then
      some (config.intent bar found.2.entrySide (entryReason found.2))
    else none)

def answerTo (priorClose : Option ℚ) (record : List (Domain.Bar × List Intent))
    (bar : Domain.Bar) : List Intent :=
  (config.held priorClose (record.map Prod.fst ++ [bar]) record).elim
    (config.entryOn priorClose record bar).toList
    (fun held =>
      (config.checkExit bar (some (dayVwap (record.map Prod.fst ++ [bar]))) held).toList)

structure Tracks (priorClose : Option ℚ) (state : SymbolState)
    (record : List (Domain.Bar × List Intent)) : Prop where
  gap : state.gap = config.settings.gapOf priorClose (record.map Prod.fst)
  session : state.session = sessionOf (record.map Prod.fst)
  position : state.position = config.held priorClose (record.map Prod.fst) record
  opened : state.position ≠ none → config.settings.openingBar (record.map Prod.fst) ≠ none
  trades : state.tradesTakenToday = config.style.entriesIn record

variable {config} {priorClose : Option ℚ} {record : List (Domain.Bar × List Intent)}
  {bar : Domain.Bar}

theorem tracks_reset (config : Config) (date : ℤ) (state : SymbolState) :
    config.Tracks state.gap.lastClose (SymbolState.reset date state) [] where
  gap := rfl
  session := rfl
  position := rfl
  opened := fun held => absurd rfl held
  trades := rfl

theorem held_concat {seen : List Domain.Bar}
    (opened : config.held priorClose seen record ≠ none →
      config.settings.openingBar seen ≠ none) :
    config.held priorClose (seen ++ [bar]) record = config.held priorClose seen record := by
  unfold held at opened ⊢
  by_cases entered : config.style.lastEntry record = none
  · rw [Style.heldBy_eq_none_iff.mpr entered, Style.heldBy_eq_none_iff.mpr entered]
  · have same : config.opens priorClose (seen ++ [bar]) = config.opens priorClose seen := by
      funext opening intent
      unfold opens openPosition dynamicTarget
      rw [Settings.gapOf_concat_of_open
        (opened (fun none_ => entered (Style.heldBy_eq_none_iff.mp none_)))]
    rw [same]

theorem entry_eq {seen : SymbolState} (flat : seen.position = none)
    (gap : seen.gap = config.settings.gapOf priorClose (record.map Prod.fst ++ [bar]))
    (vwap : seen.session.vwap = some (dayVwap (record.map Prod.fst ++ [bar])))
    (trades : seen.tradesTakenToday = config.style.entriesIn record) :
    (config.entry bar seen).map Prod.fst = config.entryOn priorClose record bar := by
  unfold entry entryOn canEnter
  rw [chance_eq gap, flat, vwap, trades]
  simp only [Option.isNone_none, Option.isSome_some, Bool.and_true]
  split_ifs with may
  · unfold checkEntry
    cases seen.gap.openingPrice with
    | none => rfl
    | some price =>
        cases seen.gap.direction with
        | none => rfl
        | some direction =>
            dsimp only [Option.bind_some, Option.map_some]
            rw [vwap]
            by_cases reached : triggered direction bar price config.fadeTriggerBps = true
            · rw [if_neg (not_not.mpr reached)]
              by_cases blocked : config.requireVwapConfirmation = true ∧
                ¬ vwapConfirms direction bar
                  (some (dayVwap (record.map Prod.fst ++ [bar]))) = true
              · have refused : ¬ config.Turned bar (dayVwap (record.map Prod.fst ++ [bar])) price
                    direction :=
                  fun turned => blocked.2 (turned.2 blocked.1)
                rw [if_pos blocked, if_neg refused]
                rfl
              · have turned : config.Turned bar (dayVwap (record.map Prod.fst ++ [bar])) price
                    direction :=
                  ⟨reached, fun asked => by_contra (fun missing => blocked ⟨asked, missing⟩)⟩
                rw [if_neg blocked, if_pos turned]
                rfl
            · have refused : ¬ config.Turned bar (dayVwap (record.map Prod.fst ++ [bar])) price
                  direction :=
                fun turned => reached turned.1
              rw [if_pos reached, if_neg refused]
              rfl
  · rfl

theorem opened_of_entry {seen : SymbolState} {intent : Intent} {opened : Position}
    (gap : seen.gap = config.settings.gapOf priorClose (record.map Prod.fst ++ [bar]))
    (found : config.entry bar seen = some (intent, opened)) :
    config.style.isEntry intent = true ∧
      opened = config.opens priorClose (record.map Prod.fst ++ [bar]) bar intent ∧
      config.settings.openingBar (record.map Prod.fst ++ [bar]) ≠ none := by
  obtain ⟨allowed, entering, same⟩ := entered_of_ite
    (fun side => config.openPosition bar side seen.gap) Position.side (fun _ => rfl) found
  have enters := enters_of_checkEntry entering
  obtain ⟨_, _, _, _, _, priced⟩ :=
    OpeningGap.canEnter_iff.mp (Bool.and_eq_true_iff.mp allowed).1
  rw [gap] at priced
  refine ⟨enters.reason, ?_, openingBar_of_openingPrice priced⟩
  rw [same, opens, enters.direction, gap]

theorem Tracks.step {today state : SymbolState} (tracks : config.Tracks priorClose today record)
    (observed : config.observed bar state =
      { today with
        gap := config.settings.observe bar today.gap
        session := today.session.update bar }) :
    (config.onSymbolBar bar state).1 = config.answerTo priorClose record bar ∧
      config.Tracks priorClose (config.onSymbolBar bar state).2
        (record ++ [(bar, config.answerTo priorClose record bar)]) := by
  have gap : (config.observed bar state).gap =
      config.settings.gapOf priorClose (record.map Prod.fst ++ [bar]) := by
    rw [observed, ← Settings.gapOf_concat, ← tracks.gap]
  have session : (config.observed bar state).session =
      sessionOf (record.map Prod.fst ++ [bar]) := by
    rw [observed, ← sessionOf_concat, ← tracks.session]
  have vwap : (config.observed bar state).session.vwap =
      some (dayVwap (record.map Prod.fst ++ [bar])) := by
    rw [session, vwap_sessionOf_concat]
  have trades : (config.observed bar state).tradesTakenToday = config.style.entriesIn record := by
    rw [observed]
    exact tracks.trades
  have position : (config.observed bar state).position =
      config.held priorClose (record.map Prod.fst ++ [bar]) record := by
    rw [observed, held_concat, ← tracks.position]
    rw [← tracks.position]
    exact tracks.opened
  have opening : (config.observed bar state).position ≠ none →
      config.settings.openingBar (record.map Prod.fst ++ [bar]) ≠ none := by
    rw [observed]
    intro isHeld
    obtain ⟨first, found⟩ := Option.ne_none_iff_exists'.mp (tracks.opened isHeld)
    rw [Settings.openingBar_concat, found]
    exact Option.some_ne_none first
  unfold onSymbolBar
  dsimp only
  generalize config.observed bar state = seen at gap session vwap trades position opening ⊢
  have answer : (exitOrEnter seen.position (config.checkExit bar seen.session.vwap)
      (config.entry bar seen)).intents = config.answerTo priorClose record bar := by
    rw [Style.intents_exitOrEnter, answerTo, ← position, vwap]
    cases flat : seen.position with
    | some held => rfl
    | none =>
        dsimp only [Option.elim_none]
        rw [entry_eq flat gap vwap trades]
  have kept : seen.position = (config.style.heldBy
      (config.opens priorClose (record.map Prod.fst ++ [bar])) (fun _bar held => held)
        record).map (fun held => held) := by
    rw [Option.map_id', position]
    rfl
  have exits : ∀ held intent, config.checkExit bar seen.session.vwap held = some intent →
      config.style.isEntry intent = false :=
    fun held intent exiting => (exits_of_checkExit exiting).reason
  have enters : ∀ intent opened, config.entry bar seen = some (intent, opened) →
      config.style.isEntry intent = true ∧
        opened = config.opens priorClose (record.map Prod.fst ++ [bar]) bar intent :=
    fun intent opened found =>
      ⟨(opened_of_entry gap found).1, (opened_of_entry gap found).2.1⟩
  obtain ⟨after, counted⟩ := Style.tracked_exitOrEnter kept exits enters
  rw [answer] at after counted
  have bars : (record ++ [(bar, config.answerTo priorClose record bar)]).map Prod.fst =
      record.map Prod.fst ++ [bar] := by
    rw [List.map_append, List.map_singleton]
  refine ⟨answer, ?_⟩
  constructor
  · rw [bars, ← gap]
  · rw [bars, ← session]
  · rw [bars]
    exact after
  · rw [bars]
    intro stillHeld
    obtain ⟨held, isHeld⟩ := Option.ne_none_iff_exists'.mp stillHeld
    rcases position_exitOrEnter isHeld with ⟨before, _⟩ | ⟨intent, _, found, _⟩
    · exact opening (fun flat => nomatch before.symm.trans flat)
    · exact (opened_of_entry gap found).2.2
  · rw [← counted, trades]

theorem lastClose_after (config : Config) (bars : List Domain.Bar) :
    (config.machine.after bars).gap.lastClose = lastClose bars := by
  induction bars using List.reverseRecOn with
  | nil => rfl
  | append_singleton earlier bar _ =>
      rw [EventMachine.after_concat, lastClose, List.getLast?_append, List.getLast?_singleton]
      exact Settings.lastClose_observe bar _

theorem answering (config : Config) : AnsweringAfter config.machine barDate
    SymbolState.currentDate lastClose config.Tracks config.answerTo where
  start := rfl
  dated := config.limited.dated
  opens := by
    intro earlier bar other
    have fresh : config.observed bar (config.machine.after earlier) =
        { SymbolState.reset (barDate bar) (config.machine.after earlier) with
          gap := config.settings.observe bar
            (SymbolState.reset (barDate bar) (config.machine.after earlier)).gap
          session :=
            (SymbolState.reset (barDate bar) (config.machine.after earlier)).session.update
              bar } := by
      unfold observed
      rw [if_neg other]
    rw [← config.lastClose_after earlier]
    exact (config.tracks_reset (barDate bar) (config.machine.after earlier)).step fresh
  extends_ := by
    intro priorClose bar state record same tracks
    refine tracks.step ?_
    unfold observed
    rw [if_pos same]

/-- Fed with the bars of any symbols in the order of their days, the strategy answers every
bar as the last close before its day, the bars of the day and its earlier answers call for. -/
theorem answers_fadedGap (config : Config) {bars : List Domain.Bar}
    (ordered : bars.Pairwise (fun earlier later => earlier.timestamp ≤ later.timestamp))
    (symbol : String) (d : ℤ) :
    Answered
      (config.answerTo (lastClose (before barDate d
        (bars.filter (fun bar => bar.symbol = symbol)))))
      (dayRecord (config.strategy.calls bars) symbol d) :=
  answered_dayRecord config.answering ordered symbol d

theorem chance_of_entry {intent : Intent} (member : intent ∈ config.answerTo priorClose record bar)
    (entry : config.style.isEntry intent = true) :
    ∃ price, chance config.limits config.style config.settings priorClose record bar =
      some (price, intent.direction) := by
  unfold answerTo at member
  cases held : config.held priorClose (record.map Prod.fst ++ [bar]) record with
  | some position =>
      rw [held, Option.elim_some, Option.mem_toList] at member
      exact nomatch (exits_of_checkExit member).reason.symm.trans entry
  | none =>
      rw [held, Option.elim_none, Option.mem_toList] at member
      obtain ⟨found, chosen, entered⟩ := Option.bind_eq_some_iff.mp member
      obtain ⟨_, same⟩ := Option.ite_none_right_eq_some.mp entered
      cases same
      refine ⟨found.1, chosen.trans ?_⟩
      have enters : config.style.Enters bar found.2
          (config.intent bar found.2.entrySide (entryReason found.2)) :=
        Style.enters_of_either rfl rfl found.2
      rw [enters.direction]

end TradingEngine.GapFade.Config

/-! ### Following the gap -/

namespace TradingEngine.GapContinuation.Config

open DayRecords Domain Intraday OpeningGap
open PairsTrading (barDate barTime)

variable (config : Config)

def opens (bar : Domain.Bar) (intent : Intent) : Position :=
  config.openPosition bar intent.direction

def held (record : List (Domain.Bar × List Intent)) : Option Position :=
  config.style.heldBy config.opens (fun _bar held => held) record

/-- The entry that a bar calls for when nothing is held. -/
def entryOn (priorClose : Option ℚ) (record : List (Domain.Bar × List Intent))
    (bar : Domain.Bar) : Option Intent :=
  (chance config.limits config.style config.settings priorClose record bar).bind (fun found =>
    if triggered found.2 bar found.1 config.continuationTriggerBps then
      some (config.intent bar found.2.entrySide (entryReason found.2))
    else none)

def answerTo (priorClose : Option ℚ) (record : List (Domain.Bar × List Intent))
    (bar : Domain.Bar) : List Intent :=
  (config.held record).elim (config.entryOn priorClose record bar).toList
    (fun held => (config.checkExit bar held).toList)

structure Tracks (priorClose : Option ℚ) (state : SymbolState)
    (record : List (Domain.Bar × List Intent)) : Prop where
  gap : state.gap = config.settings.gapOf priorClose (record.map Prod.fst)
  position : state.position = config.held record
  trades : state.tradesTakenToday = config.style.entriesIn record

variable {config} {priorClose : Option ℚ} {record : List (Domain.Bar × List Intent)}
  {bar : Domain.Bar}

theorem tracks_reset (config : Config) (date : ℤ) (state : SymbolState) :
    config.Tracks state.gap.lastClose (SymbolState.reset date state) [] where
  gap := rfl
  position := rfl
  trades := rfl

theorem entry_eq {seen : SymbolState} (flat : seen.position = none)
    (gap : seen.gap = config.settings.gapOf priorClose (record.map Prod.fst ++ [bar]))
    (trades : seen.tradesTakenToday = config.style.entriesIn record) :
    (config.entry bar seen).map Prod.fst = config.entryOn priorClose record bar := by
  unfold entry entryOn canEnter
  rw [chance_eq gap, flat, trades, Option.isNone_none]
  split_ifs with may
  · unfold checkEntry
    cases seen.gap.openingPrice with
    | none => rfl
    | some price =>
        cases seen.gap.direction with
        | none => rfl
        | some direction =>
            dsimp only [Option.bind_some, Option.map_some]
            split_ifs
            · rfl
            · rfl
  · rfl

theorem opened_of_entry {seen : SymbolState} {intent : Intent} {opened : Position}
    (found : config.entry bar seen = some (intent, opened)) :
    config.style.isEntry intent = true ∧ opened = config.opens bar intent := by
  obtain ⟨_, entering, same⟩ :=
    entered_of_ite (config.openPosition bar) Position.side (fun _ => rfl) found
  have enters := enters_of_checkEntry entering
  exact ⟨enters.reason, by rw [opens, enters.direction, ← same]⟩

theorem Tracks.step {today state : SymbolState} (tracks : config.Tracks priorClose today record)
    (observed : config.observed bar state =
      { today with gap := config.settings.observe bar today.gap }) :
    (config.onSymbolBar bar state).1 = config.answerTo priorClose record bar ∧
      config.Tracks priorClose (config.onSymbolBar bar state).2
        (record ++ [(bar, config.answerTo priorClose record bar)]) := by
  have gap : (config.observed bar state).gap =
      config.settings.gapOf priorClose (record.map Prod.fst ++ [bar]) := by
    rw [observed, ← Settings.gapOf_concat, ← tracks.gap]
  have trades : (config.observed bar state).tradesTakenToday = config.style.entriesIn record := by
    rw [observed]
    exact tracks.trades
  have position : (config.observed bar state).position = config.held record := by
    rw [observed]
    exact tracks.position
  unfold onSymbolBar
  dsimp only
  generalize config.observed bar state = seen at gap trades position ⊢
  have answer : (exitOrEnter seen.position (config.checkExit bar)
      (config.entry bar seen)).intents = config.answerTo priorClose record bar := by
    rw [Style.intents_exitOrEnter, answerTo, ← position]
    cases flat : seen.position with
    | some held => rfl
    | none =>
        dsimp only [Option.elim_none]
        rw [entry_eq flat gap trades]
  have kept : seen.position = (config.style.heldBy config.opens (fun _bar held => held)
      record).map (fun held => held) := by
    rw [Option.map_id', position]
    rfl
  obtain ⟨after, counted⟩ := Style.tracked_exitOrEnter kept
    (fun held intent exiting => (exits_of_checkExit exiting).reason)
    (fun intent opened found => opened_of_entry found)
  rw [answer] at after counted
  have bars : (record ++ [(bar, config.answerTo priorClose record bar)]).map Prod.fst =
      record.map Prod.fst ++ [bar] := by
    rw [List.map_append, List.map_singleton]
  refine ⟨answer, ?_⟩
  constructor
  · rw [bars, ← gap]
  · exact after
  · rw [← counted, trades]

theorem lastClose_after (config : Config) (bars : List Domain.Bar) :
    (config.machine.after bars).gap.lastClose = lastClose bars := by
  induction bars using List.reverseRecOn with
  | nil => rfl
  | append_singleton earlier bar _ =>
      rw [EventMachine.after_concat, lastClose, List.getLast?_append, List.getLast?_singleton]
      exact Settings.lastClose_observe bar _

theorem answering (config : Config) : AnsweringAfter config.machine barDate
    SymbolState.currentDate lastClose config.Tracks config.answerTo where
  start := rfl
  dated := config.limited.dated
  opens := by
    intro earlier bar other
    have fresh : config.observed bar (config.machine.after earlier) =
        { SymbolState.reset (barDate bar) (config.machine.after earlier) with
          gap := config.settings.observe bar
            (SymbolState.reset (barDate bar) (config.machine.after earlier)).gap } := by
      unfold observed
      rw [if_neg other]
    rw [← config.lastClose_after earlier]
    exact (config.tracks_reset (barDate bar) (config.machine.after earlier)).step fresh
  extends_ := by
    intro priorClose bar state record same tracks
    refine tracks.step ?_
    unfold observed
    rw [if_pos same]

/-- Fed with the bars of any symbols in the order of their days, the strategy answers every
bar as the last close before its day, the bars of the day and its earlier answers call for. -/
theorem answers_followedGap (config : Config) {bars : List Domain.Bar}
    (ordered : bars.Pairwise (fun earlier later => earlier.timestamp ≤ later.timestamp))
    (symbol : String) (d : ℤ) :
    Answered
      (config.answerTo (lastClose (before barDate d
        (bars.filter (fun bar => bar.symbol = symbol)))))
      (dayRecord (config.strategy.calls bars) symbol d) :=
  answered_dayRecord config.answering ordered symbol d

theorem chance_of_entry {intent : Intent} (member : intent ∈ config.answerTo priorClose record bar)
    (entry : config.style.isEntry intent = true) :
    ∃ price, chance config.limits config.style config.settings priorClose record bar =
      some (price, intent.direction) := by
  unfold answerTo at member
  cases held : config.held record with
  | some position =>
      rw [held, Option.elim_some, Option.mem_toList] at member
      exact nomatch (exits_of_checkExit member).reason.symm.trans entry
  | none =>
      rw [held, Option.elim_none, Option.mem_toList] at member
      obtain ⟨found, chosen, entered⟩ := Option.bind_eq_some_iff.mp member
      obtain ⟨_, same⟩ := Option.ite_none_right_eq_some.mp entered
      cases same
      refine ⟨found.1, chosen.trans ?_⟩
      have enters : config.style.Enters bar found.2
          (config.intent bar found.2.entrySide (entryReason found.2)) :=
        Style.enters_of_either rfl rfl found.2
      rw [enters.direction]

end TradingEngine.GapContinuation.Config

/-! ### Both strategies -/

namespace TradingEngine.OpeningGap

open DayRecords Domain Intraday
open PairsTrading (barDate barTime)

variable (fade : GapFade.Config) (continuation : GapContinuation.Config)

theorem takes_opposite (sameStart : fade.sessionStart = continuation.sessionStart)
    {priorClose : Option ℚ} {day : List Domain.Bar} {faded followed : Direction}
    (fades : Takes fade.settings priorClose day faded)
    (follows : Takes continuation.settings priorClose day followed) : faded ≠ followed := by
  obtain ⟨first, opening, close, closed, side⟩ := fades
  obtain ⟨other, otherOpening, otherClose, otherClosed, otherSide⟩ := follows
  have sameOpening : continuation.settings.openingBar day = fade.settings.openingBar day := by
    unfold Settings.openingBar GapFade.Config.settings GapContinuation.Config.settings
    rw [sameStart]
  rw [Option.mem_def, sameOpening, Option.mem_def.mp opening] at otherOpening
  rw [Option.mem_def, Option.mem_def.mp closed] at otherClosed
  cases otherOpening
  cases otherClosed
  unfold GapFade.Config.settings at side
  unfold GapContinuation.Config.settings at otherSide
  dsimp only at side otherSide
  rcases side with ⟨up, short⟩ | ⟨down, long⟩
  · rcases otherSide with ⟨_, long⟩ | ⟨down, _⟩
    · obtain ⟨_, isShort⟩ := Option.ite_none_right_eq_some.mp short
      obtain ⟨_, isLong⟩ := Option.ite_none_right_eq_some.mp long
      cases isShort
      cases isLong
      exact Direction.noConfusion
    · exact absurd up (not_lt_of_gt down)
  · rcases otherSide with ⟨up, _⟩ | ⟨_, short⟩
    · exact absurd up (not_lt_of_gt down)
    · obtain ⟨_, isLong⟩ := Option.ite_none_right_eq_some.mp long
      obtain ⟨_, isShort⟩ := Option.ite_none_right_eq_some.mp short
      cases isShort
      cases isLong
      exact Direction.noConfusion

/-- How the two strategies answer the bars of one symbol on one day. -/
structure GapDay (bars : List Domain.Bar) (symbol : String) (d : ℤ) : Prop where
  faded : Answered
    (fade.answerTo (lastClose (before barDate d (bars.filter (fun bar => bar.symbol = symbol)))))
    (dayRecord (fade.strategy.calls bars) symbol d)
  followed : Answered
    (continuation.answerTo
      (lastClose (before barDate d (bars.filter (fun bar => bar.symbol = symbol)))))
    (dayRecord (continuation.strategy.calls bars) symbol d)
  opposite : fade.sessionStart = continuation.sessionStart →
    ∀ entry ∈ intentsOf (dayRecord (fade.strategy.calls bars) symbol d),
      ∀ other ∈ intentsOf (dayRecord (continuation.strategy.calls bars) symbol d),
        fade.style.isEntry entry = true → continuation.style.isEntry other = true →
          entry.direction ≠ other.direction

/-- Fed with the same bars in the order of their days, both strategies answer every bar as the
last close before its day, the bars of the day and their own earlier answers call for, and on no
day do they enter on the same side. -/
theorem gapDays (fade : GapFade.Config) (continuation : GapContinuation.Config)
    {bars : List Domain.Bar}
    (ordered : bars.Pairwise (fun earlier later => earlier.timestamp ≤ later.timestamp))
    (symbol : String) (d : ℤ) : GapDay fade continuation bars symbol d where
  faded := fade.answers_fadedGap ordered symbol d
  followed := continuation.answers_followedGap ordered symbol d
  opposite := by
    intro sameStart entry fades other follows isFade isContinuation
    have faded := takes_of_answered (fun record bar intent => fade.chance_of_entry)
      (fade.answers_fadedGap ordered symbol d) fades isFade
    have followed := takes_of_answered (fun record bar intent => continuation.chance_of_entry)
      (continuation.answers_followedGap ordered symbol d) follows isContinuation
    rw [GapFade.Config.strategy, map_fst_dayRecord] at faded
    rw [GapContinuation.Config.strategy, map_fst_dayRecord] at followed
    exact takes_opposite fade continuation sameStart faded followed

/-! ### A gap up -/

def followConfig : GapContinuation.Config :=
  { quantity := 1
    quantity_pos := Int.zero_lt_one
    latestEntryTime := 38000000000
    minGapBps := 59
    continuationTriggerBps := 17
    stopLossBps := 79
    targetBps := some 91
    one_le_trades := Nat.one_pos }

def gapUpBars : List Domain.Bar :=
  [flatBar "INFY" 55200000000 10000, flatBar "INFY" 119700000000 10200,
    flatBar "INFY" 120000000000 10230, flatBar "INFY" 120300000000 10100]

/-- The gap is followed first, and faded once the price has turned. -/
theorem gapUpBars_decided :
    (dayRecord (fadeConfig.strategy.calls gapUpBars) "INFY" 1).map
        (fun call => call.2.map Intent.reason) = [[], [], ["gf_short_entry"]] ∧
    (dayRecord (followConfig.strategy.calls gapUpBars) "INFY" 1).map
        (fun call => call.2.map Intent.reason) = [[], ["gc_long_entry"], ["gc_stop_loss"]] ∧
    GapDay fadeConfig followConfig gapUpBars "INFY" 1 := by
  have ordered : gapUpBars.Pairwise
      (fun earlier later => earlier.timestamp ≤ later.timestamp) := by
    decide
  exact ⟨by decide +kernel, by decide +kernel, gapDays fadeConfig followConfig ordered "INFY" 1⟩

end TradingEngine.OpeningGap
