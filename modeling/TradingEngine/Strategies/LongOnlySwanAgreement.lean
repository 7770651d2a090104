/-
The deployed Black Swan replay against its reference strategy.

Both score the same ratios and share their exit and entry tests.  They differ in
when the entry test is made: the strategy makes it on rows that start flat, the
replay also on a row that has just closed a position.  The replay moreover answers
fewer than two rows more than its window with an error, where the strategy trades
from the first full window on.
-/

import Mathlib.Data.Rat.Sqrt
import TradingEngine.Scripts.PaperTrader
import TradingEngine.Strategies.LongOnlySwan

namespace TradingEngine.LongOnlySwan

open PaperTrader (Params)
open Signals (OrderIntent Side)

variable {K : Type} [Field K] [LinearOrder K]

def Config.params (config : Config K) : Params K :=
  { windowSize := config.windowSize
    entryZScore := config.entryZScore
    exitZScore := config.exitZScore
    stopLossZScore := config.stopLossZScore
    maxHoldDays := config.maxHoldDays }

def reasonName : PairSide → PaperTrader.ExitReason → String
  | .longA, .stopLoss => "long_a_stop_loss"
  | .longA, .maxHoldDays => "long_a_time_exit"
  | .longA, _ => "long_a_exit"
  | .longB, .stopLoss => "long_b_stop_loss"
  | .longB, .maxHoldDays => "long_b_time_exit"
  | .longB, _ => "long_b_exit"

def Config.actionName (config : Config K) : PaperTrader.Action → Ticker × Side × String
  | .enter side => (config.symbolOf side, .buy, Config.entryReason side)
  | .close side reason => (config.symbolOf side, .sell, reasonName side reason)

def intentName (intent : OrderIntent) : Ticker × Side × String :=
  (intent.symbol, intent.side, intent.reason)

theorem Config.params_entrySide (config : Config K) (z : K) :
    config.params.entrySide z = config.entrySide z :=
  rfl

theorem Config.params_exitReason (config : Config K) (z : K) (daysHeld : ℤ)
    (side : PairSide) :
    (config.params.exitReason z daysHeld side).map (reasonName side) =
      config.exitReason z daysHeld side := by
  cases side with
  | longA =>
      by_cases stop : z ≤ -config.stopLossZScore
      · simp [Params.exitReason, Config.exitReason, Config.params, reasonName, stop]
      · by_cases reverted : -config.exitZScore ≤ z
        · by_cases high : 0 ≤ z <;>
            simp [Params.exitReason, Config.exitReason, Config.params, reasonName, stop,
              reverted, high]
        · by_cases late : config.maxHoldDays ≤ daysHeld <;>
            simp [Params.exitReason, Config.exitReason, Config.params, reasonName, stop,
              reverted, late]
  | longB =>
      by_cases stop : config.stopLossZScore ≤ z
      · simp [Params.exitReason, Config.exitReason, Config.params, reasonName, stop]
      · by_cases reverted : z ≤ config.exitZScore
        · by_cases low : z ≤ 0 <;>
            simp [Params.exitReason, Config.exitReason, Config.params, reasonName, stop,
              reverted, low]
        · by_cases late : config.maxHoldDays ≤ daysHeld <;>
            simp [Params.exitReason, Config.exitReason, Config.params, reasonName, stop,
              reverted, late]

/-- Up to the names of the reasons. -/
def Config.SignalsAgree (config : Config K) (actions : List PaperTrader.Action)
    (intents : List OrderIntent) : Prop :=
  actions.map config.actionName = intents.map intentName

instance (config : Config K) (actions : List PaperTrader.Action)
    (intents : List OrderIntent) : Decidable (config.SignalsAgree actions intents) :=
  inferInstanceAs (Decidable (_ = _))

section

variable [FloorRing K] (config : Config K) (sqrt : K → K) (exchange : String)
variable (aFirst : Bool) (fetch : Ticker → Option (Frame K)) (today : Date)
variable (series : PairSeries K)

def StopLeavesFlat (i : ℕ) : Prop :=
  ∀ side, .close side .stopLoss ∈ config.params.actionsAt sqrt today series.rows i →
    (config.params.stateAfter sqrt today series.rows (i + 1)).position = none ∧
      (config.stateAfter sqrt exchange aFirst series.rows (i + 1)).position = none

/-- `replay_pair` and the strategy on row `i`: the same signals, and a stop leaves both
flat. -/
def RowAgrees (i : ℕ) : Prop :=
  config.SignalsAgree
      (PaperTrader.replayActions sqrt fetch config.symbolA config.symbolB config.params i)
      (config.intentsAt sqrt exchange aFirst series.rows i) ∧
    ∀ report, PaperTrader.replayPair sqrt fetch config.symbolA config.symbolB config.params =
        .ok report →
      StopLeavesFlat config sqrt exchange aFirst report.todayDate series i

/-- The z-score of row `i` calls for no entry. -/
def NoEntry (i : ℕ) : Prop :=
  ∀ row z, series.rows[i]? = some row →
    row.zScore sqrt config.windowSize (row.observe config.windowSize
      (config.stateAfter sqrt exchange aFirst series.rows i).ratioHistory) = some z →
    config.entrySide z = none

/-- If the strategy holds a position before row `i` that is due there, the z-score of
the row calls for no entry. -/
def NoEntryWhenDue (i : ℕ) : Prop :=
  ∀ row held z reason, series.rows[i]? = some row →
    (config.stateAfter sqrt exchange aFirst series.rows i).position = some held →
    row.zScore sqrt config.windowSize (row.observe config.windowSize
      (config.stateAfter sqrt exchange aFirst series.rows i).ratioHistory) = some z →
    config.exitReason z (row.timestamp.daysSince held.entryTime) held.side = some reason →
      config.entrySide z = none

/-- The rows of a series that is long enough for the replay call for no entry where a held
position is due; those of a shorter one call for none at all. -/
def NoDisputedEntry (i : ℕ) : Prop :=
  if series.rows.length < config.windowSize + 2 then NoEntry config sqrt exchange aFirst series i
  else NoEntryWhenDue config sqrt exchange aFirst series i

/-- Same ratios, and the same side entered at the same time, or none in both. -/
structure Related (i : ℕ) : Prop where
  ratioHistory : (config.params.stateAfter sqrt today series.rows i).ratioHistory =
    (config.stateAfter sqrt exchange aFirst series.rows i).ratioHistory
  position : (config.params.stateAfter sqrt today series.rows i).position.map
      (fun position => (position.side, position.entryDate)) =
    (config.stateAfter sqrt exchange aFirst series.rows i).position.map
      (fun held => (held.side, held.entryTime))

end

/-! ### What the replay does on a row -/

section Replay

variable [FloorRing K]

theorem stepRow_ratioHistory (params : Params K) (sqrt : K → K) (today : Date)
    (row : PairRow K) (state : PaperTrader.PairState K) :
    (params.stepRow sqrt today row state).ratioHistory =
      row.observe params.windowSize state.ratioHistory := by
  have kept : ∀ (actions : List PaperTrader.Action) (before : PaperTrader.PairState K),
      (actions.foldl (PaperTrader.PairState.apply today row) before).ratioHistory =
        before.ratioHistory := by
    intro actions
    induction actions with
    | nil => exact fun _ => rfl
    | cons action rest ih =>
        intro before
        rw [List.foldl_cons, ih]
        cases action with
        | enter side => rfl
        | close side reason =>
            simp only [PaperTrader.PairState.apply, PaperTrader.PairState.closePosition]
            split
            · rfl
            · split <;> rfl
  exact kept _ _

theorem closePosition_position (today : Date) (row : PairRow K)
    (reason : PaperTrader.ExitReason) (state : PaperTrader.PairState K) :
    (state.closePosition today row reason).position = none := by
  unfold PaperTrader.PairState.closePosition
  split
  · assumption
  · simp only
    split <;> rfl

end Replay

/-! ### One row -/

section Pass

variable [FloorRing K] {config : Config K} {sqrt : K → K} {exchange : String}
variable {aFirst : Bool} {today : Date} {series : PairSeries K} {i : ℕ} {row : PairRow K}

def zScoreOf (config : Config K) (sqrt : K → K) (row : PairRow K) (history : List K) :
    Option K :=
  row.zScore sqrt config.windowSize (row.observe config.windowSize history)

theorem strategy_of_silent (found : series.rows[i]? = some row)
    (silent : zScoreOf config sqrt row
      (config.stateAfter sqrt exchange aFirst series.rows i).ratioHistory = none) :
    config.intentsAt sqrt exchange aFirst series.rows i = [] ∧
      (config.stateAfter sqrt exchange aFirst series.rows (i + 1)).ratioHistory =
        row.observe config.windowSize
          (config.stateAfter sqrt exchange aFirst series.rows i).ratioHistory ∧
      (config.stateAfter sqrt exchange aFirst series.rows (i + 1)).position =
        (config.stateAfter sqrt exchange aFirst series.rows i).position := by
  unfold zScoreOf at silent
  rw [Config.intentsAt_of_getElem? found, Config.stateAfter_succ found,
    Config.onRow_series series found, Config.onPair_eq, silent]
  exact ⟨rfl, rfl, rfl⟩

theorem strategy_of_zScore {z : K} (found : series.rows[i]? = some row)
    (scored : zScoreOf config sqrt row
      (config.stateAfter sqrt exchange aFirst series.rows i).ratioHistory = some z) :
    config.intentsAt sqrt exchange aFirst series.rows i =
        (config.onZScore z row.timestamp exchange row.closeOf
          (config.stateAfter sqrt exchange aFirst series.rows i).position).1 ∧
      (config.stateAfter sqrt exchange aFirst series.rows (i + 1)).ratioHistory =
        row.observe config.windowSize
          (config.stateAfter sqrt exchange aFirst series.rows i).ratioHistory ∧
      (config.stateAfter sqrt exchange aFirst series.rows (i + 1)).position =
        (config.onZScore z row.timestamp exchange row.closeOf
          (config.stateAfter sqrt exchange aFirst series.rows i).position).2 := by
  unfold zScoreOf at scored
  rw [Config.intentsAt_of_getElem? found, Config.stateAfter_succ found,
    Config.onRow_series series found, Config.onPair_eq, scored]
  exact ⟨rfl, rfl, rfl⟩

theorem replay_decides (related : Related config sqrt exchange aFirst today series i)
    (found : series.rows[i]? = some row) :
    config.params.actionsAt sqrt today series.rows i =
      (zScoreOf config sqrt row
          (config.stateAfter sqrt exchange aFirst series.rows i).ratioHistory).elim []
        (fun z => config.params.actions z row
          (config.params.stateAfter sqrt today series.rows i).position) := by
  rw [Params.actionsAt_of_getElem? found, Params.decide, Params.zScoreAt,
    related.ratioHistory]
  rfl

theorem ratioHistory_succ (related : Related config sqrt exchange aFirst today series i)
    (found : series.rows[i]? = some row) :
    (config.params.stateAfter sqrt today series.rows (i + 1)).ratioHistory =
      row.observe config.windowSize
        (config.stateAfter sqrt exchange aFirst series.rows i).ratioHistory := by
  rw [Params.stateAfter_succ found, stepRow_ratioHistory, related.ratioHistory]
  rfl

theorem replay_position_succ (found : series.rows[i]? = some row) :
    (config.params.stateAfter sqrt today series.rows (i + 1)).position =
      ((config.params.actionsAt sqrt today series.rows i).foldl
        (PaperTrader.PairState.apply today row)
        { config.params.stateAfter sqrt today series.rows i with
          ratioHistory := row.observe config.params.windowSize
            (config.params.stateAfter sqrt today series.rows i).ratioHistory }).position := by
  rw [Params.stateAfter_succ found, Params.actionsAt_of_getElem? found]
  rfl

/-- The loop of the replay and the strategy on row `i`. -/
def PassAgrees (config : Config K) (sqrt : K → K) (exchange : String) (aFirst : Bool)
    (today : Date) (series : PairSeries K) (i : ℕ) : Prop :=
  config.SignalsAgree (config.params.actionsAt sqrt today series.rows i)
      (config.intentsAt sqrt exchange aFirst series.rows i) ∧
    StopLeavesFlat config sqrt exchange aFirst today series i

theorem pass_of_silent (related : Related config sqrt exchange aFirst today series i)
    (found : series.rows[i]? = some row)
    (silent : zScoreOf config sqrt row
      (config.stateAfter sqrt exchange aFirst series.rows i).ratioHistory = none) :
    PassAgrees config sqrt exchange aFirst today series i ∧
      NoEntryWhenDue config sqrt exchange aFirst series i ∧
      Related config sqrt exchange aFirst today series (i + 1) := by
  obtain ⟨noIntent, history, kept⟩ := strategy_of_silent found silent
  have noAction := replay_decides related found
  rw [silent] at noAction
  have stays : (config.params.stateAfter sqrt today series.rows (i + 1)).position = _ :=
    replay_position_succ found
  rw [noAction] at stays
  refine ⟨⟨?_, ?_⟩, ?_, ?_, ?_⟩
  · rw [Config.SignalsAgree, noAction, noIntent]
    rfl
  · intro side stop
    rw [noAction] at stop
    contradiction
  · intro row' held z reason found' _ scored
    obtain rfl := Option.some.inj (found.symm.trans found')
    exact absurd (silent.symm.trans scored) (Option.some_ne_none z).symm
  · rw [ratioHistory_succ related found, history]
  · rw [stays, kept]
    exact related.position

theorem pass_of_flat {z : K} (related : Related config sqrt exchange aFirst today series i)
    (found : series.rows[i]? = some row)
    (scored : zScoreOf config sqrt row
      (config.stateAfter sqrt exchange aFirst series.rows i).ratioHistory = some z)
    (flat : (config.stateAfter sqrt exchange aFirst series.rows i).position = none) :
    PassAgrees config sqrt exchange aFirst today series i ∧
      NoEntryWhenDue config sqrt exchange aFirst series i ∧
      Related config sqrt exchange aFirst today series (i + 1) := by
  have replayFlat : (config.params.stateAfter sqrt today series.rows i).position = none := by
    have same := related.position
    rw [flat] at same
    exact Option.map_eq_none_iff.mp same
  obtain ⟨intents, history, after⟩ := strategy_of_zScore found scored
  have decided := replay_decides related found
  have next : (config.params.stateAfter sqrt today series.rows (i + 1)).position = _ :=
    replay_position_succ found
  rw [scored, Option.elim_some, replayFlat, Params.actions, config.params_entrySide] at decided
  rw [flat] at intents after
  rw [decided] at next
  have noneHeld : NoEntryWhenDue config sqrt exchange aFirst series i := by
    intro _ held _ _ _ isHeld
    rw [flat] at isHeld
    contradiction
  have noStop : StopLeavesFlat config sqrt exchange aFirst today series i := by
    intro side stop
    rw [decided] at stop
    rcases List.mem_map.mp stop with ⟨_, _, impossible⟩
    contradiction
  cases entry : config.entrySide z with
  | none =>
      rw [entry] at decided next
      simp only [Config.onZScore, entry] at intents after
      refine ⟨⟨?_, noStop⟩, noneHeld, ?_, ?_⟩
      · rw [Config.SignalsAgree, decided, intents]
        rfl
      · rw [ratioHistory_succ related found, history]
      · rw [after, next]
        exact congrArg (Option.map _) replayFlat
  | some side =>
      rw [entry] at decided next
      simp only [Config.onZScore, entry] at intents after
      refine ⟨⟨?_, noStop⟩, noneHeld, ?_, ?_⟩
      · rw [Config.SignalsAgree, decided, intents]
        rfl
      · rw [ratioHistory_succ related found, history]
      · rw [after, next]
        rfl

theorem noEntryWhenDue_iff_of_held {z : K} {held : Holding}
    (found : series.rows[i]? = some row)
    (scored : zScoreOf config sqrt row
      (config.stateAfter sqrt exchange aFirst series.rows i).ratioHistory = some z)
    (isHeld : (config.stateAfter sqrt exchange aFirst series.rows i).position = some held) :
    NoEntryWhenDue config sqrt exchange aFirst series i ↔
      ∀ reason,
        config.exitReason z (row.timestamp.daysSince held.entryTime) held.side = some reason →
          config.entrySide z = none := by
  constructor
  · exact fun clean reason due => clean row held z reason found isHeld scored due
  · intro silent row' held' z' reason found' isHeld' scored' due
    obtain rfl := Option.some.inj (found.symm.trans found')
    obtain rfl := Option.some.inj (scored.symm.trans scored')
    obtain rfl := Option.some.inj (isHeld.symm.trans isHeld')
    exact silent reason due

theorem replay_decides_of_held {z : K} {held : Holding}
    (related : Related config sqrt exchange aFirst today series i)
    (found : series.rows[i]? = some row)
    (scored : zScoreOf config sqrt row
      (config.stateAfter sqrt exchange aFirst series.rows i).ratioHistory = some z)
    (isHeld : (config.stateAfter sqrt exchange aFirst series.rows i).position = some held) :
    config.params.actionsAt sqrt today series.rows i =
      (config.params.exitReason z (row.timestamp.daysSince held.entryTime) held.side).elim []
        (fun reason => .close held.side reason :: (config.entrySide z).toList.map .enter) := by
  obtain ⟨position, replayHeld, sameEntry⟩ :
      ∃ position, (config.params.stateAfter sqrt today series.rows i).position =
        some position ∧ (position.side, position.entryDate) = (held.side, held.entryTime) := by
    have same := related.position
    rw [isHeld] at same
    exact Option.map_eq_some_iff.mp same
  obtain ⟨sameSide, sameTime⟩ := Prod.mk.inj sameEntry
  rw [replay_decides related found, scored, Option.elim_some, replayHeld]
  simp only [Params.actions, Params.exitAt, sameSide, sameTime, config.params_entrySide]
  cases config.params.exitReason z (row.timestamp.daysSince held.entryTime) held.side with
  | none => rfl
  | some reason => rfl

theorem pass_of_kept {z : K} {held : Holding}
    (related : Related config sqrt exchange aFirst today series i)
    (found : series.rows[i]? = some row)
    (scored : zScoreOf config sqrt row
      (config.stateAfter sqrt exchange aFirst series.rows i).ratioHistory = some z)
    (isHeld : (config.stateAfter sqrt exchange aFirst series.rows i).position = some held)
    (kept : config.params.exitReason z (row.timestamp.daysSince held.entryTime) held.side =
      none) :
    PassAgrees config sqrt exchange aFirst today series i ∧
      NoEntryWhenDue config sqrt exchange aFirst series i ∧
      Related config sqrt exchange aFirst today series (i + 1) := by
  obtain ⟨intents, history, after⟩ := strategy_of_zScore found scored
  have verdict := config.params_exitReason z (row.timestamp.daysSince held.entryTime) held.side
  rw [kept, Option.map_none] at verdict
  have noAction := replay_decides_of_held related found scored isHeld
  rw [kept, Option.elim_none] at noAction
  have stays : (config.params.stateAfter sqrt today series.rows (i + 1)).position = _ :=
    replay_position_succ found
  rw [noAction] at stays
  rw [isHeld] at intents after
  simp only [Config.onZScore, ← verdict] at intents after
  refine ⟨⟨?_, ?_⟩, ?_, ?_, ?_⟩
  · rw [Config.SignalsAgree, noAction, intents]
    rfl
  · intro side stop
    rw [noAction] at stop
    contradiction
  · apply (noEntryWhenDue_iff_of_held found scored isHeld).mpr
    intro reason due
    exact absurd (verdict.trans due) (Option.some_ne_none reason).symm
  · rw [ratioHistory_succ related found, history]
  · rw [after, stays, ← isHeld]
    exact related.position

/-- Two machines that hold a side that is due close it together; the replay goes on to
the entry test. -/
theorem pass_of_due {z : K} {held : Holding} {reason : PaperTrader.ExitReason}
    (related : Related config sqrt exchange aFirst today series i)
    (found : series.rows[i]? = some row)
    (scored : zScoreOf config sqrt row
      (config.stateAfter sqrt exchange aFirst series.rows i).ratioHistory = some z)
    (isHeld : (config.stateAfter sqrt exchange aFirst series.rows i).position = some held)
    (due : config.params.exitReason z (row.timestamp.daysSince held.entryTime) held.side =
      some reason) :
    (PassAgrees config sqrt exchange aFirst today series i ↔
        NoEntryWhenDue config sqrt exchange aFirst series i) ∧
      (NoEntryWhenDue config sqrt exchange aFirst series i →
        Related config sqrt exchange aFirst today series (i + 1)) := by
  obtain ⟨intents, history, after⟩ := strategy_of_zScore found scored
  have verdict := config.params_exitReason z (row.timestamp.daysSince held.entryTime) held.side
  rw [due, Option.map_some] at verdict
  have decided := replay_decides_of_held related found scored isHeld
  rw [due, Option.elim_some] at decided
  have next : (config.params.stateAfter sqrt today series.rows (i + 1)).position = _ :=
    replay_position_succ found
  rw [isHeld] at intents after
  simp only [Config.onZScore, ← verdict] at intents after
  have dueRow : NoEntryWhenDue config sqrt exchange aFirst series i ↔
      config.entrySide z = none :=
    (noEntryWhenDue_iff_of_held found scored isHeld).trans
      ⟨fun silent => silent _ verdict.symm, fun noEntry _ _ => noEntry⟩
  have flatAfter : config.entrySide z = none →
      (config.params.stateAfter sqrt today series.rows (i + 1)).position = none := by
    intro noEntry
    rw [decided, noEntry] at next
    rw [next]
    exact closePosition_position _ _ _ _
  rw [dueRow]
  refine ⟨⟨?_, ?_⟩, ?_⟩
  · intro ⟨agree, _⟩
    rw [Config.SignalsAgree, decided, intents, List.map_cons, List.map_cons] at agree
    have restEmpty := (List.cons.inj agree).2
    have noAction := List.map_eq_nil_iff.mp (List.map_eq_nil_iff.mp restEmpty)
    exact Option.toList_eq_nil_iff.mp noAction
  · intro noEntry
    refine ⟨?_, ?_⟩
    · rw [Config.SignalsAgree, decided, intents, noEntry]
      rfl
    · exact fun _ _ => ⟨flatAfter noEntry, after⟩
  · intro noEntry
    constructor
    · rw [ratioHistory_succ related found, history]
    · rw [after, flatAfter noEntry]
      rfl

theorem pass (related : Related config sqrt exchange aFirst today series i)
    (inside : i < series.rows.length) :
    (PassAgrees config sqrt exchange aFirst today series i ↔
        NoEntryWhenDue config sqrt exchange aFirst series i) ∧
      (NoEntryWhenDue config sqrt exchange aFirst series i →
        Related config sqrt exchange aFirst today series (i + 1)) := by
  have found : series.rows[i]? = some series.rows[i] := List.getElem?_eq_getElem inside
  cases scored : zScoreOf config sqrt series.rows[i]
      (config.stateAfter sqrt exchange aFirst series.rows i).ratioHistory with
  | none =>
      obtain ⟨agree, clean, next⟩ := pass_of_silent related found scored
      exact ⟨iff_of_true agree clean, fun _ => next⟩
  | some z =>
      cases isHeld : (config.stateAfter sqrt exchange aFirst series.rows i).position with
      | none =>
          obtain ⟨agree, clean, next⟩ := pass_of_flat related found scored isHeld
          exact ⟨iff_of_true agree clean, fun _ => next⟩
      | some held =>
          cases due : config.params.exitReason z
              (series.rows[i].timestamp.daysSince held.entryTime) held.side with
          | none =>
              obtain ⟨agree, clean, next⟩ := pass_of_kept related found scored isHeld due
              exact ⟨iff_of_true agree clean, fun _ => next⟩
          | some reason => exact pass_of_due related found scored isHeld due

end Pass

theorem passAgrees_iff [FloorRing K] (config : Config K) (sqrt : K → K)
    (exchange : String) (aFirst : Bool) (today : Date) (series : PairSeries K) :
    (∀ i, i < series.rows.length →
        PassAgrees config sqrt exchange aFirst today series i) ↔
      (∀ i, i < series.rows.length →
        NoEntryWhenDue config sqrt exchange aFirst series i) :=
  RangeLoop.lockstep_iff (Related config sqrt exchange aFirst today series)
    (PassAgrees config sqrt exchange aFirst today series)
    (NoEntryWhenDue config sqrt exchange aFirst series) series.rows.length ⟨rfl, rfl⟩
    (fun _i inside related => (pass related inside).1)
    (fun _i inside related clean => (pass related inside).2 clean)

/-! ### A series that the replay refuses -/

section Silent

variable [FloorRing K] {config : Config K} {sqrt : K → K} {exchange : String}
variable {aFirst : Bool} {series : PairSeries K} {i : ℕ}

theorem flat_pass
    (flat : (config.stateAfter sqrt exchange aFirst series.rows i).position = none)
    (inside : i < series.rows.length) :
    (config.intentsAt sqrt exchange aFirst series.rows i = [] ↔
        NoEntry config sqrt exchange aFirst series i) ∧
      (NoEntry config sqrt exchange aFirst series i →
        (config.stateAfter sqrt exchange aFirst series.rows (i + 1)).position = none) := by
  have found : series.rows[i]? = some series.rows[i] := List.getElem?_eq_getElem inside
  cases scored : zScoreOf config sqrt series.rows[i]
      (config.stateAfter sqrt exchange aFirst series.rows i).ratioHistory with
  | none =>
      obtain ⟨noIntent, _, kept⟩ := strategy_of_silent found scored
      have quiet : NoEntry config sqrt exchange aFirst series i := by
        intro row z found' scored'
        obtain rfl := Option.some.inj (found.symm.trans found')
        exact absurd (scored.symm.trans scored') (Option.some_ne_none z).symm
      exact ⟨iff_of_true noIntent quiet, fun _ => kept.trans flat⟩
  | some z =>
      obtain ⟨intents, _, after⟩ := strategy_of_zScore found scored
      have noEntry_iff : NoEntry config sqrt exchange aFirst series i ↔
          config.entrySide z = none := by
        constructor
        · exact fun quiet => quiet _ z found scored
        · intro noSide row z' found' scored'
          obtain rfl := Option.some.inj (found.symm.trans found')
          obtain rfl := Option.some.inj (scored.symm.trans scored')
          exact noSide
      rw [flat] at intents after
      rw [noEntry_iff]
      cases entry : config.entrySide z with
      | none =>
          simp only [Config.onZScore, entry] at intents after
          exact ⟨iff_of_true intents rfl, fun _ => after⟩
      | some side =>
          simp only [Config.onZScore, entry] at intents after
          refine ⟨iff_of_false ?_ (Option.some_ne_none side), ?_⟩
          · rw [intents]
            exact List.cons_ne_nil _ _
          · exact fun impossible => absurd impossible (Option.some_ne_none side)

theorem silent_iff_noEntry :
    (∀ i, i < series.rows.length → config.intentsAt sqrt exchange aFirst series.rows i = []) ↔
      ∀ i, i < series.rows.length → NoEntry config sqrt exchange aFirst series i :=
  RangeLoop.lockstep_iff
    (fun i => (config.stateAfter sqrt exchange aFirst series.rows i).position = none)
    (fun i => config.intentsAt sqrt exchange aFirst series.rows i = [])
    (NoEntry config sqrt exchange aFirst series) series.rows.length rfl
    (fun _i inside flat => (flat_pass flat inside).1)
    (fun _i inside flat quiet => (flat_pass flat inside).2 quiet)

variable {fetch : Ticker → Option (Frame K)}

theorem rowAgrees_of_error {text : String}
    (refused : PaperTrader.replayPair sqrt fetch config.symbolA config.symbolB config.params =
      .error text) (i : ℕ) :
    RowAgrees config sqrt exchange aFirst fetch series i ↔
      config.intentsAt sqrt exchange aFirst series.rows i = [] := by
  unfold RowAgrees Config.SignalsAgree
  rw [PaperTrader.replayActions_of_error refused, refused]
  constructor
  · rintro ⟨none_, _⟩
    exact List.map_eq_nil_iff.mp none_.symm
  · intro none_
    rw [none_]
    exact ⟨rfl, nofun⟩

theorem rowAgrees_of_ok {report : PaperTrader.PairReport K}
    (aligned : PaperTrader.fetchedRows fetch config.symbolA config.symbolB = series.rows)
    (replayed : PaperTrader.replayPair sqrt fetch config.symbolA config.symbolB config.params =
      .ok report) (i : ℕ) :
    RowAgrees config sqrt exchange aFirst fetch series i ↔
      PassAgrees config sqrt exchange aFirst report.todayDate series i := by
  unfold RowAgrees PassAgrees
  rw [PaperTrader.replayActions_of_ok replayed, replayed, aligned]
  constructor
  · exact fun agree => ⟨agree.1, agree.2 report rfl⟩
  · rintro ⟨signals, flat⟩
    refine ⟨signals, ?_⟩
    intro other same
    rw [← Except.ok.inj same]
    exact flat

end Silent

/-- Whatever is downloaded for the two legs, `replay_pair` gives the signals of the strategy
on every row, and every stop leaves both flat, exactly when no row calls for an entry that
only one of them makes. -/
theorem replayPair_agrees_iff [FloorRing K] (config : Config K) (sqrt : K → K)
    (exchange : String) (aFirst : Bool) (fetch : Ticker → Option (Frame K))
    (series : PairSeries K)
    (aligned : PaperTrader.fetchedRows fetch config.symbolA config.symbolB = series.rows) :
    (∀ i, i < series.rows.length → RowAgrees config sqrt exchange aFirst fetch series i) ↔
      (∀ i, i < series.rows.length → NoDisputedEntry config sqrt exchange aFirst series i) := by
  by_cases short : series.rows.length < config.windowSize + 2
  · have noRows := short
    rw [← aligned] at noRows
    obtain ⟨text, refused⟩ := PaperTrader.replayPair_of_short sqrt config.params noRows
    simp only [rowAgrees_of_error refused, NoDisputedEntry, if_pos short]
    exact silent_iff_noEntry
  · have enough := Nat.le_of_not_lt short
    rw [← aligned] at enough
    obtain ⟨report, replayed⟩ := PaperTrader.replayPair_of_long sqrt config.params enough
    simp only [rowAgrees_of_ok aligned replayed, NoDisputedEntry, if_neg short]
    exact passAgrees_iff config sqrt exchange aFirst report.todayDate series

/-- A bar of June 2026 that trades at one price. -/
def closingBar (day : ℕ) (price : ℚ) (positive : 0 < price) : Bar ℚ :=
  { timestamp := ⟨1780272000 + 86400 * day⟩
    openPrice := price
    high := price
    low := price
    close := price
    open_pos := positive
    close_pos := positive }

def climbingBar (day : ℕ) : Bar ℚ :=
  closingBar day (100 * (day + 1)) (by positivity)

/-- Ratios that climb by one a day: the second leg is bought on the third row and
stopped out on the fourth, where its z-score still calls for buying it. -/
def climbingFetch (ticker : Ticker) : Option (Frame ℚ) :=
  if ticker = "HDFCBANK" then
    some { bars := (List.range 5).map climbingBar, nonempty := by decide }
  else if ticker = "HDFCLIFE" then
    some
      { bars := (List.range 5).map (fun day => closingBar day 100 hundred_pos)
        nonempty := by decide }
  else none

def climbing : PairSeries ℚ :=
  { rows := PaperTrader.fetchedRows climbingFetch "HDFCBANK" "HDFCLIFE"
    increasing := by decide +kernel }

def tightStop : Config ℚ :=
  { windowSize := 3
    entryZScore := 1 / 2
    stopLossZScore := 9 / 10
    exit_lt_entry := by norm_num
    entry_lt_stop := by norm_num }

theorem climbing_apart :
    ¬ tightStop.SignalsAgree
      (PaperTrader.replayActions Rat.sqrt climbingFetch "HDFCBANK" "HDFCLIFE" tightStop.params 3)
      (tightStop.intentsAt Rat.sqrt "NSE" true climbing.rows 3) := by
  decide +kernel

theorem climbing_not_rowAgrees :
    ¬ ∀ i, i < climbing.rows.length →
      RowAgrees tightStop Rat.sqrt "NSE" true climbingFetch climbing i := by
  intro agree
  exact climbing_apart (agree 3 (by decide +kernel)).1

theorem climbing_disputed :
    ¬ ∀ i, i < climbing.rows.length →
      NoDisputedEntry tightStop Rat.sqrt "NSE" true climbing i := by
  intro quiet
  have agree := (replayPair_agrees_iff tightStop Rat.sqrt "NSE" true climbingFetch climbing
    rfl).mpr quiet
  exact climbing_apart (agree 3 (by decide +kernel)).1

theorem actions_of_stopLoss [IsStrictOrderedRing K] (config : Config K) {z : K}
    {row : PairRow K} {position : PaperTrader.Position K}
    (stop : config.params.exitAt z row position = some .stopLoss) :
    ∃ side, config.params.actions z row (some position) =
      [.close position.side .stopLoss, .enter side] := by
  have beyond : z ≤ -config.entryZScore ∨ config.entryZScore ≤ z := by
    have wider := config.entry_lt_stop
    unfold Params.exitAt at stop
    cases side : position.side with
    | longA =>
        rw [side] at stop
        left
        by_contra inside
        have quiet : ¬ z ≤ -config.params.stopLossZScore :=
          fun low => inside (le_trans low (neg_le_neg (le_of_lt wider)))
        simp only [Params.exitReason, if_neg quiet] at stop
        split_ifs at stop <;> contradiction
    | longB =>
        rw [side] at stop
        right
        by_contra inside
        have quiet : ¬ config.params.stopLossZScore ≤ z :=
          fun high => inside (le_trans (le_of_lt wider) high)
        simp only [Params.exitReason, if_neg quiet] at stop
        split_ifs at stop <;> contradiction
  obtain ⟨side, entry⟩ : ∃ side, config.params.entrySide z = some side := by
    by_cases cheap : z ≤ -config.params.entryZScore
    · exact ⟨.longA, if_pos cheap⟩
    · have dear : config.params.entryZScore ≤ z := beyond.resolve_left cheap
      refine ⟨.longB, ?_⟩
      unfold Params.entrySide
      rw [if_neg cheap, if_pos dear]
  refine ⟨side, ?_⟩
  simp only [Params.actions, stop, entry]
  rfl

end TradingEngine.LongOnlySwan
