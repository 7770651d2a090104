/-
What the opening range strategy decides, read off the bars of the day.

The opening range is what the day's bars before the first late one give.  From then on a bar
that finds no position is bought if it breaks out of that range and an earlier entry of the
day does not forbid it, and a position is left by the stop and the target that its entry
bar fixed.
-/

import TradingEngine.General.ValueRange
import TradingEngine.Strategies.DayAnswers
import TradingEngine.Strategies.SquareOff

namespace TradingEngine.OpeningRange

open DayRecords Domain Intraday
open PairsTrading (barDate barTime)

namespace Config

variable (config : Config)

/-! ### The opening range of a day -/

/-- The bars before the first one at or after the end of the opening range. -/
def rangeBars (seen : List Domain.Bar) : List Domain.Bar :=
  seen.takeWhile (fun bar => barTime bar < config.rangeEnd)

def rangeHigh (seen : List Domain.Bar) : Option ℚ :=
  ((config.rangeBars seen).map Domain.Bar.high).max?

def rangeLow (seen : List Domain.Bar) : Option ℚ :=
  ((config.rangeBars seen).map Domain.Bar.low).min?

/-- A bar at or after the end of the opening range has come. -/
def RangeOver (seen : List Domain.Bar) : Prop :=
  ∃ bar ∈ seen, config.rangeEnd ≤ barTime bar

instance (seen : List Domain.Bar) : Decidable (config.RangeOver seen) :=
  inferInstanceAs (Decidable (∃ bar ∈ seen, _))

variable {config}

theorem rangeBars_of_not_rangeOver {seen : List Domain.Bar}
    (building : ¬ config.RangeOver seen) : config.rangeBars seen = seen := by
  have inside : ∀ bar ∈ seen, decide (barTime bar < config.rangeEnd) = true := by
    intro bar member
    exact decide_eq_true (not_le.mp (fun late => building ⟨bar, member, late⟩))
  have whole := @List.takeWhile_append_of_pos _ _ _ [] inside
  rw [List.append_nil, List.takeWhile_nil, List.append_nil] at whole
  exact whole

theorem rangeBars_concat (config : Config) (seen : List Domain.Bar) (bar : Domain.Bar) :
    config.rangeBars (seen ++ [bar]) =
      if config.RangeOver (seen ++ [bar]) then config.rangeBars seen else seen ++ [bar] := by
  split_ifs with over_
  · unfold rangeBars
    rw [List.takeWhile_append]
    split_ifs with whole
    · -- No earlier bar was late, so the last one is.
      have inside : seen.takeWhile (fun bar => barTime bar < config.rangeEnd) = seen :=
        (List.takeWhile_prefix _).eq_of_length whole
      obtain ⟨late, member, after⟩ := over_
      rcases List.mem_append.mp member with old | new
      · rw [← inside] at old
        have early : decide (barTime late < config.rangeEnd) = true :=
          List.all_eq_true.mp List.all_takeWhile late old
        exact absurd after (not_le.mpr (of_decide_eq_true early))
      · rw [List.mem_singleton.mp new] at after
        rw [List.takeWhile_cons, decide_eq_false (not_lt.mpr after), inside]
        exact List.append_nil seen
    · rfl
  · exact rangeBars_of_not_rangeOver over_

end Config

/-! ### The answer to a bar -/

namespace Config

variable (config : Config)

/-- The bar breaks out of the range with some risk below it. -/
def BreaksOut (seen : List Domain.Bar) (bar : Domain.Bar) : Prop :=
  (∃ high ∈ config.rangeHigh seen, config.entryTrigger high ≤ bar.high) ∧
    ∃ low ∈ config.rangeLow seen, config.stopPrice low < bar.close

instance (seen : List Domain.Bar) (bar : Domain.Bar) : Decidable (config.BreaksOut seen bar) :=
  inferInstanceAs (Decidable (_ ∧ _))

/-- No entry yet, or another one is allowed. -/
def MayEnter (record : List (Domain.Bar × List Intent)) : Prop :=
  config.style.entriesIn record = 0 ∨ config.allowReentry = true

instance (record : List (Domain.Bar × List Intent)) : Decidable (config.MayEnter record) :=
  inferInstanceAs (Decidable (_ ∨ _))

def positionFrom (seen : List Domain.Bar) (opening : Domain.Bar) : Option Position :=
  (config.rangeLow seen).bind (config.openPosition opening)

def answerTo (record : List (Domain.Bar × List Intent)) (bar : Domain.Bar) : List Intent :=
  if config.RangeOver (record.map Prod.fst ++ [bar]) then
    match (config.style.openedAt record).bind (config.positionFrom (record.map Prod.fst)) with
    | some held => (config.checkExit bar held).toList
    | none =>
        if config.MayEnter record ∧ config.BreaksOut (record.map Prod.fst) bar then
          [config.intent bar .buy "orb_breakout_long"]
        else []
  else []

/-! ### What the state tracks -/

structure Tracks (state : SymbolState) (record : List (Domain.Bar × List Intent)) : Prop where
  highest : state.openingRangeHigh = config.rangeHigh (record.map Prod.fst)
  lowest : state.openingRangeLow = config.rangeLow (record.map Prod.fst)
  complete : state.openingRangeComplete = true ↔ config.RangeOver (record.map Prod.fst)
  position : state.position =
    (config.style.openedAt record).bind (config.positionFrom (record.map Prod.fst))
  opened : state.position = none → config.style.openedAt record = none
  entered : state.enteredToday = true ↔
    config.style.openedAt record ≠ none ∨
      config.allowReentry = false ∧ 0 < config.style.entriesIn record

variable {config}

theorem tracks_reset (config : Config) (date : ℤ) :
    config.Tracks (SymbolState.reset (some date)) [] where
  highest := rfl
  lowest := rfl
  complete := by simp [SymbolState.reset, RangeOver]
  position := rfl
  opened := fun _flat => rfl
  entered := by simp [SymbolState.reset, Style.openedAt, Style.entriesIn, intentsOf]

section Bar

variable {bar : Domain.Bar} {state : SymbolState} {record : List (Domain.Bar × List Intent)}
  (tracks : config.Tracks state record)
include tracks

theorem Tracks.ready_iff :
    ¬ (state.openingRangeComplete = false ∧ barTime bar < config.rangeEnd) ↔
      config.RangeOver (record.map Prod.fst ++ [bar]) := by
  have complete := tracks.complete
  unfold RangeOver at complete ⊢
  simp only [List.mem_append, List.mem_singleton, or_and_right, exists_or, exists_eq_left,
    ← complete, not_and_or, Bool.not_eq_false, not_lt]

theorem Tracks.accumulate (building : ¬ config.RangeOver (record.map Prod.fst ++ [bar])) :
    config.Tracks (OpeningRange.Config.accumulate bar state) (record ++ [(bar, [])]) := by
  have before : ¬ config.RangeOver (record.map Prod.fst) := by
    intro ⟨other, member, late⟩
    exact building ⟨other, List.mem_append_left _ member, late⟩
  have bars : (record ++ [(bar, ([] : List Intent))]).map Prod.fst =
      record.map Prod.fst ++ [bar] := by
    rw [List.map_append, List.map_singleton]
  have whole := config.rangeBars_concat (record.map Prod.fst) bar
  rw [if_neg building] at whole
  have flat : state.position = none := by
    by_contra held
    exact before (tracks.complete.mp (state.entered_after_range held))
  have unopened : config.style.openedAt (record ++ [(bar, [])]) = none := by
    rw [Style.openedAt_concat, if_pos rfl]
    exact tracks.opened flat
  constructor
  · rw [bars, rangeHigh, whole, List.map_append, List.map_singleton, ValueRange.max?_concat]
    unfold OpeningRange.Config.accumulate
    dsimp only
    rw [tracks.highest, rangeHigh, rangeBars_of_not_rangeOver before]
    cases ((record.map Prod.fst).map Domain.Bar.high).max? with
    | none => rfl
    | some most =>
        dsimp only
        split_ifs
        · rfl
        · rfl
  · rw [bars, rangeLow, whole, List.map_append, List.map_singleton, ValueRange.min?_concat]
    unfold OpeningRange.Config.accumulate
    dsimp only
    rw [tracks.lowest, rangeLow, rangeBars_of_not_rangeOver before]
    cases ((record.map Prod.fst).map Domain.Bar.low).min? with
    | none => rfl
    | some least =>
        dsimp only
        split_ifs
        · rfl
        · rfl
  · rw [bars]
    exact iff_of_false (fun complete => before (tracks.complete.mp complete)) building
  · rw [unopened]
    exact flat
  · exact fun _flat => unopened
  · rw [unopened, Style.entriesIn_concat]
    have entered := tracks.entered
    rw [tracks.opened flat] at entered
    exact entered

omit tracks in
theorem positionFrom_concat (over_ : config.RangeOver (record.map Prod.fst ++ [bar]))
    (answer : List Intent) :
    config.positionFrom ((record ++ [(bar, answer)]).map Prod.fst) =
      config.positionFrom (record.map Prod.fst) := by
  funext opening
  unfold positionFrom rangeLow
  rw [List.map_append, List.map_singleton, rangeBars_concat, if_pos over_]

theorem Tracks.concat (over_ : config.RangeOver (record.map Prod.fst ++ [bar]))
    {answer : List Intent} {after : SymbolState}
    (high : after.openingRangeHigh = state.openingRangeHigh)
    (low : after.openingRangeLow = state.openingRangeLow)
    (complete : after.openingRangeComplete = true)
    (position : after.position = (config.style.openedAt (record ++ [(bar, answer)])).bind
      (config.positionFrom (record.map Prod.fst)))
    (opened : after.position = none → config.style.openedAt (record ++ [(bar, answer)]) = none)
    (entered : after.enteredToday = true ↔
      config.style.openedAt (record ++ [(bar, answer)]) ≠ none ∨
        config.allowReentry = false ∧ 0 < config.style.entriesIn (record ++ [(bar, answer)])) :
    config.Tracks after (record ++ [(bar, answer)]) where
  highest := by
    rw [high, tracks.highest, rangeHigh, rangeHigh, List.map_append, List.map_singleton,
      rangeBars_concat, if_pos over_]
  lowest := by
    rw [low, tracks.lowest, rangeLow, rangeLow, List.map_append, List.map_singleton,
      rangeBars_concat, if_pos over_]
  complete := by
    rw [List.map_append, List.map_singleton]
    exact iff_of_true complete over_
  position := by rw [position, positionFrom_concat over_]
  opened := opened
  entered := entered

theorem Tracks.entry_eq (flat : state.position = none) :
    config.entry bar state =
      if config.MayEnter record ∧ config.BreaksOut (record.map Prod.fst) bar then
        (config.positionFrom (record.map Prod.fst) bar).map
          (Prod.mk (config.intent bar .buy "orb_breakout_long"))
      else none := by
  have unopened := tracks.opened flat
  have entered : state.enteredToday = true ↔ ¬ config.MayEnter record := by
    rw [tracks.entered, unopened]
    unfold MayEnter
    rw [not_or, Bool.not_eq_true, Nat.pos_iff_ne_zero]
    simp [and_comm]
  split_ifs with calls
  · obtain ⟨may, ⟨high, highs, above⟩, low, lows, _⟩ := calls
    have fresh : ¬ state.enteredToday = true := fun flag => (entered.mp flag) may
    rw [Option.mem_def, ← tracks.highest] at highs
    rw [Option.mem_def] at lows
    unfold entry checkEntry positionFrom
    rw [if_neg fresh, highs, tracks.lowest, lows]
    dsimp only [Option.bind_some]
    rw [if_pos above]
  · rw [Option.eq_none_iff_forall_ne_some]
    intro found entering
    obtain ⟨intent, opened⟩ := found
    obtain ⟨_, fresh, breaks, risks⟩ := entry_cases entering
    rw [tracks.highest] at breaks
    rw [tracks.lowest] at risks
    refine calls ⟨?_, breaks, risks⟩
    by_contra may
    exact absurd (fresh.symm.trans (entered.mpr may)) Bool.false_ne_true

theorem Tracks.afterRange (over_ : config.RangeOver (record.map Prod.fst ++ [bar])) :
    (config.afterRange bar state).1 = config.answerTo record bar ∧
      config.Tracks (config.afterRange bar state).2
        (record ++ [(bar, config.answerTo record bar)]) := by
  unfold answerTo Config.afterRange
  rw [if_pos over_, ← tracks.position]
  cases position : state.position with
  | some held =>
      have opened : config.style.openedAt record ≠ none := by
        intro unopened
        rw [tracks.position, unopened] at position
        cases position
      obtain ⟨opening, openedAt⟩ := Option.ne_none_iff_exists'.mp opened
      have bought := Style.entriesIn_pos openedAt
      have holds : state.enteredToday = true := tracks.entered.mpr (Or.inl opened)
      dsimp only
      cases exiting : config.checkExit bar held with
      | some intent =>
          have sold : config.style.isEntry intent = false := (exits_of_checkExit exiting).reason
          have left : config.style.openedAt (record ++ [(bar, [intent])]) = none := by
            rw [Style.openedAt_concat]
            simp [sold]
          refine ⟨rfl, tracks.concat over_ rfl rfl rfl ?_ (fun _flat => left) ?_⟩
          · rw [Option.toList_some, left]
            rfl
          · rw [Option.toList_some, left, Style.entriesIn_concat]
            cases again : config.allowReentry with
            | true => simp
            | false => simp [holds, sold, bought]
      | none =>
          have kept : config.style.openedAt (record ++ [(bar, [])]) =
              config.style.openedAt record := by
            rw [Style.openedAt_concat, if_pos rfl]
          refine ⟨rfl, tracks.concat over_ rfl rfl rfl ?_ ?_ ?_⟩
          · rw [Option.toList_none, kept]
            exact tracks.position
          · intro flat
            exact absurd (position.symm.trans flat) (Option.some_ne_none held)
          · rw [Option.toList_none, kept]
            exact iff_of_true holds (Or.inl opened)
  | none =>
      have unopened := tracks.opened position
      have kept : config.style.openedAt (record ++ [(bar, [])]) = none := by
        rw [Style.openedAt_concat, if_pos rfl, unopened]
      dsimp only
      rw [tracks.entry_eq position]
      split_ifs with calls
      · obtain ⟨low, lows, below⟩ := calls.2.2
        obtain ⟨opened, opening⟩ :=
          Option.ne_none_iff_exists'.mp (openPosition_isSome_iff.mpr below)
        have from_ : config.positionFrom (record.map Prod.fst) bar = some opened := by
          unfold positionFrom
          rw [Option.mem_def.mp lows]
          exact opening
        have buys : config.style.isEntry (config.intent bar .buy "orb_breakout_long") = true :=
          decide_eq_true List.mem_cons_self
        have now : config.style.openedAt
            (record ++ [(bar, [config.intent bar .buy "orb_breakout_long"])]) = some bar := by
          rw [Style.openedAt_concat]
          simp [buys]
        rw [from_]
        refine ⟨rfl, tracks.concat over_ rfl rfl rfl ?_ ?_ ?_⟩
        · rw [now]
          exact from_.symm
        · intro flat
          cases flat
        · rw [now]
          exact iff_of_true rfl (Or.inl (Option.some_ne_none bar))
      · refine ⟨rfl, tracks.concat over_ rfl rfl rfl ?_ (fun _flat => kept) ?_⟩
        · rw [kept]
          exact position
        · have entered := tracks.entered
          rw [unopened] at entered
          rw [kept, Style.entriesIn_concat]
          exact entered

end Bar

theorem Tracks.step {bar : Domain.Bar} {state : SymbolState}
    {record : List (Domain.Bar × List Intent)} (tracks : config.Tracks (today bar state) record) :
    (config.onSymbolBar bar state).1 = config.answerTo record bar ∧
      config.Tracks (config.onSymbolBar bar state).2
        (record ++ [(bar, config.answerTo record bar)]) := by
  by_cases building :
      (today bar state).openingRangeComplete = false ∧ barTime bar < config.rangeEnd
  · have early := fun over_ => (tracks.ready_iff.mpr over_) building
    unfold onSymbolBar
    dsimp only
    rw [if_pos building, answerTo, if_neg early]
    exact ⟨rfl, tracks.accumulate early⟩
  · unfold onSymbolBar
    dsimp only
    rw [if_neg building]
    exact tracks.afterRange (tracks.ready_iff.mp building)

/-! ### Days -/

theorem answering (config : Config) : Answering config.machine barDate SymbolState.currentDate
    config.Tracks config.answerTo where
  start := rfl
  dated := config.intraday.dated
  opens := by
    intro bar state other
    have fresh : today bar state = SymbolState.reset (barDate bar) := if_neg other
    exact Tracks.step (fresh ▸ config.tracks_reset (barDate bar))
  extends_ := by
    intro bar state record same tracks
    exact Tracks.step ((today_of_sameDay same).symm ▸ tracks)

/-- Fed with the bars of any symbols in the order of their days, the strategy answers every
bar as the opening range and the answers of its symbol and its day call for. -/
theorem answers_openingRange (config : Config) {bars : List Domain.Bar}
    (ordered : bars.Pairwise (fun earlier later => earlier.timestamp ≤ later.timestamp))
    (symbol : String) (d : ℤ) :
    Answered config.answerTo (dayRecord (config.strategy.calls bars) symbol d) :=
  answered_day config.answering ordered symbol d

end Config

/-! ### A breakout -/

def breakoutBars : List Domain.Bar :=
  [flatBar "INFY" 33300000000 100, flatBar "INFY" 34200000000 105, flatBar "INFY" 34260000000 99]

/-- Bought on the first bar after the range, and stopped out below its low. -/
theorem breakoutBars_answered :
    (rangeConfig.strategy.calls breakoutBars).map (fun call => call.2.map Intent.reason) =
      [[], ["orb_breakout_long"], ["orb_stop_loss"]] ∧
    Answered rangeConfig.answerTo
      (dayRecord (rangeConfig.strategy.calls breakoutBars) "INFY" 0) := by
  have ordered : breakoutBars.Pairwise
      (fun earlier later => earlier.timestamp ≤ later.timestamp) := by
    decide
  exact ⟨by decide +kernel, rangeConfig.answers_openingRange ordered "INFY" 0⟩

end TradingEngine.OpeningRange
