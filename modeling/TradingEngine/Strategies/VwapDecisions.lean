/-
What the VWAP pullback strategy decides, read off the bars of the day.

The strategy keeps running sums, a trimmed history of VWAPs and flags.  They say no more
than the calls of the day: every answer is the one that the day's bars and the earlier
answers of the day call for, with the VWAP taken over all bars of the day.
-/

import TradingEngine.General.BoundedHistory
import TradingEngine.Strategies.DayAnswers
import TradingEngine.Strategies.OvernightPositions

namespace TradingEngine.VwapPullback

open BoundedHistory DayRecords Domain Intraday
open PairsTrading (barDate barTime)

/-! ### The VWAP of a day -/

def dayVwaps (seen : List Domain.Bar) : List ℚ :=
  (List.range seen.length).map (fun i => dayVwap (seen.take (i + 1)))

theorem dayVwaps_concat (seen : List Domain.Bar) (bar : Domain.Bar) :
    dayVwaps (seen ++ [bar]) = dayVwaps seen ++ [dayVwap (seen ++ [bar])] := by
  unfold dayVwaps
  rw [List.length_append, List.length_singleton, List.range_succ, List.map_append,
    List.map_singleton]
  congr 1
  · apply List.map_congr_left
    intro i inside
    rw [List.take_append_of_le_length (List.mem_range.mp inside)]
  · rw [List.take_of_length_le (by rw [List.length_append, List.length_singleton])]

theorem getElem?_dayVwaps {seen : List Domain.Bar} {i : ℕ} (inside : i < seen.length) :
    (dayVwaps seen)[i]? = some (dayVwap (seen.take (i + 1))) := by
  rw [dayVwaps, List.getElem?_map, List.getElem?_range inside]
  rfl

theorem length_dayVwaps (seen : List Domain.Bar) : (dayVwaps seen).length = seen.length := by
  rw [dayVwaps, List.length_map, List.length_range]

/-! ### The answer to a bar -/

namespace Config

variable (config : Config)

/-- The VWAP has risen over the lookback, counted in bars of the day. -/
def Risen (seen : List Domain.Bar) : Prop :=
  config.vwapSlopeLookbackBars ≤ seen.length ∧
    dayVwap (seen.take (seen.length - config.vwapSlopeLookbackBars + 1)) < dayVwap seen

instance (seen : List Domain.Bar) : Decidable (config.Risen seen) :=
  inferInstanceAs (Decidable (_ ∧ _))

def Confirms (earlier : List Domain.Bar) (bar : Domain.Bar) : Prop :=
  match config.confirmationMode with
  | .closeAbovePriorHigh => ∃ prior ∈ earlier.getLast?, prior.high < bar.close
  | .closeAboveVwap => dayVwap (earlier ++ [bar]) < bar.close

instance (earlier : List Domain.Bar) (bar : Domain.Bar) :
    Decidable (config.Confirms earlier bar) := by
  unfold Confirms
  split <;> infer_instance

/-- The bar, after the earlier bars of its day, calls for a purchase. -/
def CallsForEntry (earlier : List Domain.Bar) (bar : Domain.Bar) : Prop :=
  (config.noTradeBefore ≤ barTime bar ∧ barTime bar ≤ config.noNewEntriesAfter) ∧
    config.minBarsBeforeTrading ≤ earlier.length + 1 ∧
    dayVwap (earlier ++ [bar]) ≠ 0 ∧ dayVwap (earlier ++ [bar]) < bar.close ∧
    config.Risen (earlier ++ [bar]) ∧
    bar.low ≤ dayVwap (earlier ++ [bar]) * (1 + fraction config.pullbackToleranceBps) ∧
    config.Confirms earlier bar

instance (earlier : List Domain.Bar) (bar : Domain.Bar) :
    Decidable (config.CallsForEntry earlier bar) :=
  inferInstanceAs (Decidable (_ ∧ _))

/-- The earlier purchases leave room for another one. -/
def MayBuy (record : List (Domain.Bar × List Intent)) : Prop :=
  config.style.entriesIn record < config.maxTradesPerSymbolPerDay ∧
    (config.style.entriesIn record = 0 ∨ config.allowReentry = true)

instance (record : List (Domain.Bar × List Intent)) : Decidable (config.MayBuy record) :=
  inferInstanceAs (Decidable (_ ∧ _))

def answerTo (record : List (Domain.Bar × List Intent)) (bar : Domain.Bar) : List Intent :=
  match config.style.openedAt record with
  | some opening => (config.checkExit bar (config.openPosition opening)).toList
  | none =>
      if config.MayBuy record ∧ config.CallsForEntry (record.map Prod.fst) bar then
        [config.intent bar .buy "vwap_pullback_long"]
      else []

/-! ### What the state tracks -/

/-- The number of VWAPs that the history keeps. -/
def historyBound : ℕ :=
  config.vwapSlopeLookbackBars * 3 + 5

structure Tracks (state : SymbolState) (record : List (Domain.Bar × List Intent)) : Prop where
  session : state.session = sessionOf (record.map Prod.fst)
  vwapHistory : state.vwapHistory = (dayVwaps (record.map Prod.fst)).rtake config.historyBound
  barsSeenToday : state.barsSeenToday = record.length
  prevBarHigh : state.prevBarHigh = (record.map Prod.fst).getLast?.map Domain.Bar.high
  position : state.position = (config.style.openedAt record).map config.openPosition
  enteredToday : state.enteredToday =
    ((config.style.openedAt record).isSome ||
      (!config.allowReentry && 0 < config.style.entriesIn record))
  tradesTakenToday : state.tradesTakenToday = config.style.entriesIn record

variable {config}

theorem tracks_reset (config : Config) (date : ℤ) : config.Tracks (SymbolState.reset date) [] where
  session := rfl
  vwapHistory := (List.rtake_nil _).symm
  barsSeenToday := rfl
  prevBarHigh := rfl
  position := rfl
  enteredToday := by
    simp [Style.openedAt, Style.entriesIn, intentsOf, SymbolState.reset, SymbolState.start]
  tradesTakenToday := rfl

theorem vwapSlopePositive_iff (config : Config) {seen : List Domain.Bar} (some_ : seen ≠ []) :
    config.vwapSlopePositive ((dayVwaps seen).rtake config.historyBound) = true ↔
      config.Risen seen := by
  have count_pos : 0 < seen.length := List.length_pos_of_ne_nil some_
  have one_le := config.one_le_lookback
  have withinBound : config.vwapSlopeLookbackBars ≤ config.historyBound := by
    unfold historyBound
    omega
  have newest : ((dayVwaps seen).rtake config.historyBound).getLast? = some (dayVwap seen) := by
    rw [List.getLast?_eq_getElem?,
      getElem?_rtake (one_le.trans withinBound) (by rw [length_dayVwaps]; exact count_pos),
      length_dayVwaps, getElem?_dayVwaps (by omega), Nat.sub_add_cancel count_pos, List.take_length]
  unfold vwapSlopePositive Risen
  rw [newest]
  by_cases long : config.vwapSlopeLookbackBars ≤ seen.length
  · have oldest : ((dayVwaps seen).rtake config.historyBound)[
        ((dayVwaps seen).rtake config.historyBound).length - config.vwapSlopeLookbackBars]? =
          some (dayVwap (seen.take (seen.length - config.vwapSlopeLookbackBars + 1))) := by
      rw [getElem?_rtake withinBound (by rw [length_dayVwaps]; exact long), length_dayVwaps,
        getElem?_dayVwaps (by omega)]
    rw [oldest]
    dsimp only
    rw [Bool.and_eq_true, decide_eq_true_iff, decide_eq_true_iff,
      le_length_rtake_iff withinBound, length_dayVwaps]
  · have short : ¬ config.vwapSlopeLookbackBars ≤
        ((dayVwaps seen).rtake config.historyBound).length := by
      rw [le_length_rtake_iff withinBound, length_dayVwaps]
      exact long
    constructor
    · intro positive
      split at positive
      · rw [decide_eq_false short, Bool.false_and] at positive
        cases positive
      · cases positive
    · exact fun risen => absurd risen.1 long

theorem extendHistory_rtake (config : Config) (seen : List Domain.Bar) (bar : Domain.Bar) :
    config.extendHistory (sessionOf (seen ++ [bar])) ((dayVwaps seen).rtake config.historyBound) =
      (dayVwaps (seen ++ [bar])).rtake config.historyBound := by
  have some_ : (seen ++ [bar]) ≠ [] :=
    List.append_ne_nil_of_right_ne_nil seen (List.cons_ne_nil _ _)
  rw [dayVwaps_concat, ← rtake_concat]
  unfold extendHistory sessionOf
  rw [if_neg some_]
  rfl

/-! ### One bar -/

section Bar

variable {bar : Domain.Bar} {state today : SymbolState} {record : List (Domain.Bar × List Intent)}
  (tracks : config.Tracks today record)
  (kept : (if state.currentDate = some (barDate bar) then state
    else SymbolState.reset (barDate bar)) = today)
include tracks kept

theorem Tracks.observed : config.observed bar state =
    { today with
      session := sessionOf (record.map Prod.fst ++ [bar])
      vwapHistory :=
        (dayVwaps (record.map Prod.fst ++ [bar])).rtake config.historyBound
      barsSeenToday := record.length + 1 } := by
  unfold Config.observed
  rw [kept]
  dsimp only
  rw [tracks.session, sessionOf_concat, tracks.vwapHistory, extendHistory_rtake,
    tracks.barsSeenToday]

theorem Tracks.confirmed_iff : config.confirmed bar (config.observed bar state) = true ↔
    config.Confirms (record.map Prod.fst) bar := by
  have some_ : (record.map Prod.fst ++ [bar]) ≠ [] :=
    List.append_ne_nil_of_right_ne_nil _ (List.cons_ne_nil _ _)
  rw [tracks.observed kept]
  unfold confirmed Confirms sessionOf
  cases config.confirmationMode with
  | closeAbovePriorHigh =>
      dsimp only
      rw [tracks.prevBarHigh, Option.any_map, Option.any_eq_true]
      simp only [decide_eq_true_iff, Option.mem_def]
  | closeAboveVwap =>
      dsimp only
      rw [if_neg some_, Option.any_some, decide_eq_true_iff]

theorem Tracks.checkEntry_eq : config.checkEntry bar (config.observed bar state) =
    if dayVwap (record.map Prod.fst ++ [bar]) ≠ 0 ∧
        dayVwap (record.map Prod.fst ++ [bar]) < bar.close ∧
        config.Risen (record.map Prod.fst ++ [bar]) ∧
        bar.low ≤ dayVwap (record.map Prod.fst ++ [bar]) *
          (1 + fraction config.pullbackToleranceBps) ∧
        config.Confirms (record.map Prod.fst) bar then
      some (config.intent bar .buy "vwap_pullback_long")
    else none := by
  have some_ : (record.map Prod.fst ++ [bar]) ≠ [] :=
    List.append_ne_nil_of_right_ne_nil _ (List.cons_ne_nil _ _)
  have confirmed := tracks.confirmed_iff kept
  have slope := config.vwapSlopePositive_iff some_
  rw [tracks.observed kept] at confirmed ⊢
  unfold checkEntry
  simp only [confirmed, slope]
  dsimp only [sessionOf]
  rw [if_neg some_]
  dsimp only
  split_ifs <;> grind

theorem Tracks.entry_eq (flat : config.style.openedAt record = none) :
    config.entry bar (config.observed bar state) =
      if config.MayBuy record ∧ config.CallsForEntry (record.map Prod.fst) bar then
        some (config.intent bar .buy "vwap_pullback_long", config.openPosition bar)
      else none := by
  have entered : config.canEnter (barTime bar) (config.observed bar state) = true ↔
      config.MayBuy record ∧ config.noTradeBefore ≤ barTime bar ∧
        barTime bar ≤ config.noNewEntriesAfter ∧
        config.minBarsBeforeTrading ≤ (record.map Prod.fst).length + 1 := by
    rw [canEnter_iff, tracks.observed kept]
    dsimp only [sessionOf]
    rw [tracks.position, flat, tracks.enteredToday, flat, tracks.tradesTakenToday,
      if_neg (List.append_ne_nil_of_right_ne_nil _ (List.cons_ne_nil _ _)), List.length_map]
    unfold MayBuy
    cases config.allowReentry with
    | true => simp
    | false => simp [and_assoc, and_comm, and_left_comm]
  unfold entry CallsForEntry
  rw [tracks.checkEntry_eq kept]
  split_ifs <;> grind

theorem Tracks.concat {answer : List Intent} {position : Option Position} {entered : Bool}
    {trades : ℕ} (held : position =
      (config.style.openedAt (record ++ [(bar, answer)])).map config.openPosition)
    (flagged : entered = ((config.style.openedAt (record ++ [(bar, answer)])).isSome ||
      (!config.allowReentry && 0 < config.style.entriesIn (record ++ [(bar, answer)]))))
    (counted : trades = config.style.entriesIn (record ++ [(bar, answer)])) :
    config.Tracks
      { config.observed bar state with
        prevBarHigh := some bar.high
        position := position
        enteredToday := entered
        tradesTakenToday := trades }
      (record ++ [(bar, answer)]) := by
  rw [tracks.observed kept]
  exact
    { session := by rw [List.map_append]; rfl
      vwapHistory := by rw [List.map_append]; rfl
      barsSeenToday := by rw [List.length_append, List.length_singleton]
      prevBarHigh := by rw [List.map_append, List.map_singleton, List.getLast?_concat]; rfl
      position := held
      enteredToday := flagged
      tradesTakenToday := counted }

theorem Tracks.step : (config.onSymbolBar bar state).1 = config.answerTo record bar ∧
    config.Tracks (config.onSymbolBar bar state).2
      (record ++ [(bar, config.answerTo record bar)]) := by
  have position : (config.observed bar state).position =
      (config.style.openedAt record).map config.openPosition := by
    rw [tracks.observed kept]
    exact tracks.position
  have entered : (config.observed bar state).enteredToday =
      ((config.style.openedAt record).isSome ||
      (!config.allowReentry && 0 < config.style.entriesIn record)) := by
    rw [tracks.observed kept]
    exact tracks.enteredToday
  have trades : (config.observed bar state).tradesTakenToday = config.style.entriesIn record := by
    rw [tracks.observed kept]
    exact tracks.tradesTakenToday
  unfold onSymbolBar answerTo exitOrEnter
  dsimp only
  rw [position]
  cases opened : config.style.openedAt record with
  | some opening =>
      rw [opened] at entered
      dsimp only [Option.map_some]
      cases exiting : config.checkExit bar (config.openPosition opening) with
      | some intent =>
          have sold : config.style.isEntry intent = false := (exits_of_checkExit exiting).reason
          refine ⟨rfl, tracks.concat kept ?_ ?_ ?_⟩
          · rw [Style.openedAt_concat]
            simp [sold, BarAction.position]
          · have bought := Style.entriesIn_pos opened
            rw [Style.openedAt_concat, Style.entriesIn_concat]
            simp [sold, entered, enteredAfter, bought]
          · rw [Style.entriesIn_concat, trades]
            simp [sold, BarAction.tradesTaken]
      | none =>
          refine ⟨rfl, tracks.concat kept ?_ ?_ ?_⟩
          · rw [Style.openedAt_concat]
            simp [opened, BarAction.position]
          · rw [Style.openedAt_concat, Style.entriesIn_concat]
            simp [opened, entered, enteredAfter]
          · rw [Style.entriesIn_concat, trades]
            rfl
  | none =>
      rw [opened] at entered
      rw [tracks.entry_eq kept opened]
      dsimp only [Option.map_none]
      split_ifs with calls
      · have buys : config.style.isEntry (config.intent bar .buy "vwap_pullback_long") = true :=
          decide_eq_true List.mem_cons_self
        refine ⟨rfl, tracks.concat kept ?_ ?_ ?_⟩
        · rw [Style.openedAt_concat]
          simp [buys, BarAction.position]
        · rw [Style.openedAt_concat]
          simp [buys, enteredAfter]
        · rw [Style.entriesIn_concat, trades]
          simp [buys, BarAction.tradesTaken]
      · refine ⟨rfl, tracks.concat kept ?_ ?_ ?_⟩
        · rw [Style.openedAt_concat]
          simp [opened, BarAction.position]
        · rw [Style.openedAt_concat, Style.entriesIn_concat]
          simp [opened, entered, enteredAfter]
        · rw [Style.entriesIn_concat, trades]
          rfl

end Bar

/-! ### Days -/

theorem answering (config : Config) : Answering config.machine barDate SymbolState.currentDate
    config.Tracks config.answerTo where
  start := rfl
  dated := fun _ state => day_today SymbolState.currentDate state rfl
  opens := by
    intro bar state other
    exact (config.tracks_reset (barDate bar)).step (if_neg other)
  extends_ := by
    intro bar state record same tracks
    exact tracks.step (if_pos same)

/-- Fed with the bars of any symbols in the order of their days, the strategy answers every
bar as the bars and the answers of its symbol and its day call for. -/
theorem answers_dayRecord (config : Config) {bars : List Domain.Bar}
    (ordered : bars.Pairwise (fun earlier later => earlier.timestamp ≤ later.timestamp))
    (symbol : String) (d : ℤ) :
    Answered config.answerTo (dayRecord (config.strategy.calls bars) symbol d) :=
  answered_day config.answering ordered symbol d

/-- A lookback of one bar compares a VWAP with itself, so it never buys. -/
theorem answers_nil_of_lookback_one (config : Config) (single : config.vwapSlopeLookbackBars = 1)
    {record : List (Domain.Bar × List Intent)} (answered : Answered config.answerTo record) :
    ∀ call ∈ record, call.2 = [] := by
  have still : ∀ seen, ¬ config.Risen seen := by
    intro seen risen
    obtain ⟨some_, rises⟩ := risen
    rw [single] at some_ rises
    rw [Nat.sub_add_cancel some_, List.take_length] at rises
    exact lt_irrefl _ rises
  induction record using List.reverseRecOn with
  | nil => exact fun call member => absurd member List.not_mem_nil
  | append_singleton earlier call ih =>
      have silent := ih (fun before bar answer inside =>
        answered before bar answer (inside.trans (List.prefix_append _ _)))
      have flat : config.style.openedAt earlier = none := Style.openedAt_of_silent silent
      refine List.forall_mem_append.mpr ⟨silent, List.forall_mem_singleton.mpr ?_⟩
      rw [answered earlier call.1 call.2 List.prefix_rfl, answerTo, flat]
      exact if_neg (fun both => still _ both.2.2.2.2.2.1)

end Config

/-! ### A purchase -/

/-- Two bars of one day, the second bought, and one of the next day. -/
theorem pullbackBars_answered :
    Answered pullbackConfig.answerTo
      (dayRecord (pullbackConfig.strategy.calls pullbackBars) "INFY" 0) := by
  have ordered : pullbackBars.Pairwise
      (fun earlier later => earlier.timestamp ≤ later.timestamp) := by
    decide
  exact pullbackConfig.answers_dayRecord ordered "INFY" 0

end TradingEngine.VwapPullback
