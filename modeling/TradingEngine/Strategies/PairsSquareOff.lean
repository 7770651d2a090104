/-
The square-off of `PairsTradingStrategy`.

A late bar squares the spread off when it completes an aligned pair of bars, and leaves it
as it is otherwise.  A flat strategy takes its entry signals at any time of the day.
-/

import TradingEngine.General.DayClosing
import TradingEngine.Strategies.PairsTurns

namespace TradingEngine.PairsTrading

open Domain Intraday
open DayClosing (DayBooks Late QuietLate)
open Signals (Side)

namespace Config

variable (config : Config) (sqrt : ℚ → ℚ)

/-- The last bars of the legs, when they carry one timestamp and the second has a price. -/
def alignedBars (bar : Domain.Bar) (state : PairState) : Option (Domain.Bar × Domain.Bar) :=
  match (config.storeBar bar state).lastBarA, (config.storeBar bar state).lastBarB with
  | some barA, some barB =>
      if barA.timestamp = barB.timestamp ∧ barB.close ≠ 0 then some (barA, barB) else none
  | _, _ => none

/-- The bar is of a leg and completes an aligned pair. -/
def Aligned (bar : Domain.Bar) (state : PairState) : Prop :=
  ¬ (bar.symbol ≠ config.symbolA ∧ bar.symbol ≠ config.symbolB) ∧
    config.alignedBars bar state ≠ none

def ratio (legs : Domain.Bar × Domain.Bar) : ℚ :=
  legs.1.close / legs.2.close

/-- The window with the newest ratio. -/
def window (bar : Domain.Bar) (legs : Domain.Bar × Domain.Bar) (state : PairState) : List ℚ :=
  (config.withRatio (ratio legs) (config.storeBar bar state)).ratioHistory

def zScore (bar : Domain.Bar) (legs : Domain.Bar × Domain.Bar) (state : PairState) : ℚ :=
  (ratio legs - SampleStatistics.mean (config.window bar legs state)) /
    SampleStatistics.stdev sqrt (config.window bar legs state)

/-- An aligned pair finds everything that an entry needs. -/
structure EntrySignal (bar : Domain.Bar) (state : PairState)
    (legs : Domain.Bar × Domain.Bar) : Prop where
  leg : ¬ (bar.symbol ≠ config.symbolA ∧ bar.symbol ≠ config.symbolB)
  aligned : config.alignedBars bar state = some legs
  flat : (today bar state).position = none
  fresh : (today bar state).exitedToday = false
  full : config.windowSize ≤ (config.window bar legs state).length
  varied : SampleStatistics.stdev sqrt (config.window bar legs state) ≠ 0
  signals : config.zScore sqrt bar legs state ≤ -config.entryZScore ∨
    config.entryZScore ≤ config.zScore sqrt bar legs state

/-- The bar gives no entry signal. -/
def Quiet (state : PairState) (bar : Domain.Bar) : Prop :=
  ¬ ∃ legs, config.EntrySignal sqrt bar state legs

variable {config} {bar : Domain.Bar} {state : PairState} {legs : Domain.Bar × Domain.Bar}

theorem onBar_of_foreign (foreign : bar.symbol ≠ config.symbolA ∧ bar.symbol ≠ config.symbolB) :
    config.onBar sqrt bar state = ([], state) :=
  if_pos foreign

theorem onBar_of_unaligned (leg : ¬ (bar.symbol ≠ config.symbolA ∧ bar.symbol ≠ config.symbolB))
    (unaligned : config.alignedBars bar state = none) :
    config.onBar sqrt bar state = ([], config.storeBar bar state) := by
  unfold alignedBars at unaligned
  unfold onBar
  rw [if_neg leg]
  dsimp only
  cases lastA : (config.storeBar bar state).lastBarA with
  | none => rfl
  | some barA =>
      cases lastB : (config.storeBar bar state).lastBarB with
      | none => rfl
      | some barB =>
          rw [lastA, lastB] at unaligned
          dsimp only at unaligned ⊢
          split_ifs at unaligned with paired
          split_ifs with same
          · have worthless : barB.close = 0 := by
              by_contra priced
              exact paired ⟨same, priced⟩
            exact onPair_of_worthless sqrt worthless
          · rfl

theorem onBar_of_aligned (leg : ¬ (bar.symbol ≠ config.symbolA ∧ bar.symbol ≠ config.symbolB))
    (aligned : config.alignedBars bar state = some legs) :
    config.onBar sqrt bar state =
        config.onPair sqrt bar legs.1 legs.2 (config.storeBar bar state) ∧
      legs.2.close ≠ 0 := by
  unfold alignedBars at aligned
  unfold onBar
  rw [if_neg leg]
  dsimp only
  cases lastA : (config.storeBar bar state).lastBarA with
  | none =>
      rw [lastA] at aligned
      cases aligned
  | some barA =>
      cases lastB : (config.storeBar bar state).lastBarB with
      | none =>
          rw [lastA, lastB] at aligned
          cases aligned
      | some barB =>
          rw [lastA, lastB] at aligned
          dsimp only at aligned ⊢
          split_ifs at aligned with paired
          cases aligned
          exact ⟨if_pos paired.1, paired.2⟩

/-! ### Entries -/

theorem onZScore_ne_nil_iff (z : ℚ) (exchange : String) (flat : state.position = none) :
    (config.onZScore z exchange state).1 ≠ [] ↔
      state.exitedToday = false ∧ (z ≤ -config.entryZScore ∨ config.entryZScore ≤ z) := by
  unfold onZScore
  rw [flat]
  dsimp only
  split_ifs with exited low high
  · exact iff_of_false (fun traded => traded rfl)
      (fun fresh => Bool.false_ne_true (fresh.1.symm.trans exited))
  · exact iff_of_true (List.cons_ne_nil _ _) ⟨Bool.eq_false_of_not_eq_true exited, Or.inl low⟩
  · exact iff_of_true (List.cons_ne_nil _ _) ⟨Bool.eq_false_of_not_eq_true exited, Or.inr high⟩
  · exact iff_of_false (fun traded => traded rfl) (fun signals => signals.2.elim low high)

theorem onRatio_ne_nil_iff (currentRatio : ℚ) (exchange : String) (flat : state.position = none) :
    (config.onRatio sqrt currentRatio exchange state).1 ≠ [] ↔
      config.windowSize ≤ state.ratioHistory.length ∧
        SampleStatistics.stdev sqrt state.ratioHistory ≠ 0 ∧ state.exitedToday = false ∧
        ((currentRatio - SampleStatistics.mean state.ratioHistory) /
            SampleStatistics.stdev sqrt state.ratioHistory ≤ -config.entryZScore ∨
          config.entryZScore ≤
            (currentRatio - SampleStatistics.mean state.ratioHistory) /
              SampleStatistics.stdev sqrt state.ratioHistory) := by
  unfold onRatio
  dsimp only
  split_ifs with short constant
  · exact iff_of_false (fun traded => traded rfl) (fun all => not_le.mpr short all.1)
  · exact iff_of_false (fun traded => traded rfl) (fun all => all.2.1 constant)
  · rw [onZScore_ne_nil_iff _ _ flat]
    exact ⟨fun signals => ⟨not_lt.mp short, constant, signals⟩, fun all => all.2.2⟩

theorem exitedToday_storeBar (config : Config) (bar : Domain.Bar) (state : PairState) :
    (config.storeBar bar state).exitedToday = (today bar state).exitedToday := by
  rw [storeBar_eq]
  split_ifs <;> rfl

theorem trades_iff (bar : Domain.Bar) (state : PairState) :
    config.positionFound bar state = none ∧ (config.onBar sqrt bar state).1 ≠ [] ↔
      ∃ legs, config.EntrySignal sqrt bar state legs := by
  by_cases foreign : bar.symbol ≠ config.symbolA ∧ bar.symbol ≠ config.symbolB
  · refine iff_of_false ?_ (fun ⟨_, signal⟩ => signal.leg foreign)
    rw [onBar_of_foreign sqrt foreign]
    exact fun both => both.2 rfl
  have found : config.positionFound bar state = (today bar state).position := if_neg foreign
  cases aligned : config.alignedBars bar state with
  | none =>
      refine iff_of_false ?_ (fun ⟨_, signal⟩ => ?_)
      · rw [onBar_of_unaligned sqrt foreign aligned]
        exact fun both => both.2 rfl
      · cases aligned.symm.trans signal.aligned
  | some legs =>
      obtain ⟨answered, priced⟩ := onBar_of_aligned sqrt foreign aligned
      have stored := config.position_storeBar bar state
      have exited := config.exitedToday_storeBar bar state
      rw [found, answered]
      constructor
      · rintro ⟨flat, traded⟩
        have flatWindow : (config.withRatio (ratio legs) (config.storeBar bar state)).position =
            none := stored.trans flat
        rw [onPair_of_ratio sqrt priced (Or.inl (stored.trans flat))] at traded
        obtain ⟨full, varied, fresh, signals⟩ :=
          (onRatio_ne_nil_iff sqrt _ _ flatWindow).mp traded
        exact ⟨legs,
          { leg := foreign
            aligned := aligned
            flat := flat
            fresh := exited.symm.trans fresh
            full := full
            varied := varied
            signals := signals }⟩
      · rintro ⟨_, signal⟩
        cases aligned.symm.trans signal.aligned
        have flatWindow : (config.withRatio (ratio legs) (config.storeBar bar state)).position =
            none := stored.trans signal.flat
        rw [onPair_of_ratio sqrt priced (Or.inl (stored.trans signal.flat))]
        exact ⟨signal.flat, (onRatio_ne_nil_iff sqrt _ _ flatWindow).mpr
          ⟨signal.full, signal.varied, exited.trans signal.fresh, signal.signals⟩⟩

/-! ### The books of a day -/

theorem currentDate_onZScore (z : ℚ) (exchange : String) (state : PairState) :
    (config.onZScore z exchange state).2.currentDate = state.currentDate := by
  unfold onZScore
  split <;> split_ifs <;> rfl

theorem currentDate_onPair (bar barA barB : Domain.Bar) (state : PairState) :
    (config.onPair sqrt bar barA barB state).2.currentDate = state.currentDate := by
  have scored : (config.onRatio sqrt (barA.close / barB.close) bar.exchange
      (config.withRatio (barA.close / barB.close) state)).2.currentDate = state.currentDate := by
    unfold onRatio
    dsimp only
    split_ifs
    · rfl
    · rfl
    · exact currentDate_onZScore _ _ _
  by_cases worthless : barB.close = 0
  · rw [onPair_of_worthless sqrt worthless]
  cases position : state.position with
  | none => rwa [onPair_of_ratio sqrt worthless (Or.inl position)]
  | some spread =>
      by_cases late : config.squareOffTime ≤ barTime bar
      · rw [onPair_of_squareOff sqrt worthless position late]
        rfl
      · rwa [onPair_of_ratio sqrt worthless (Or.inr (not_le.mp late))]

theorem currentDate_onBar (leg : ¬ (bar.symbol ≠ config.symbolA ∧ bar.symbol ≠ config.symbolB)) :
    (config.onBar sqrt bar state).2.currentDate = some (barDate bar) := by
  cases aligned : config.alignedBars bar state with
  | none =>
      rw [onBar_of_unaligned sqrt leg aligned]
      exact config.currentDate_storeBar bar state
  | some legs =>
      rw [(onBar_of_aligned sqrt leg aligned).1, currentDate_onPair]
      exact config.currentDate_storeBar bar state

/-- The spread of the day of a bar. -/
def heldOn (config : Config) (state : PairState) (d : ℤ) (symbol : String) : ℤ :=
  if state.currentDate = some d then config.position state symbol else 0

theorem heldOn_today (config : Config) (bar : Domain.Bar) (state : PairState) (symbol : String) :
    config.heldOn state (barDate bar) symbol =
      config.spreadPosition (today bar state).position symbol := by
  unfold heldOn position today
  split_ifs
  · rfl
  · rfl

theorem heldOn_advance (leg : ¬ (bar.symbol ≠ config.symbolA ∧ bar.symbol ≠ config.symbolB))
    (symbol : String) :
    config.heldOn ((config.machine sqrt).advance state bar) (barDate bar) symbol =
      config.spreadPosition (config.onBar sqrt bar state).2.position symbol :=
  if_pos (currentDate_onBar sqrt leg)

theorem advance_of_foreign
    (foreign : bar.symbol ≠ config.symbolA ∧ bar.symbol ≠ config.symbolB) :
    (config.machine sqrt).advance state bar = state :=
  congrArg Prod.snd (onBar_of_foreign sqrt foreign)

theorem dayBooks (config : Config) : DayBooks (config.machine sqrt) barDate
    (fun answer symbol => netQuantity symbol answer) config.heldOn where
  start := fun d symbol => if_neg (Option.some_ne_none d).symm
  today := by
    intro bar state symbol
    by_cases foreign : bar.symbol ≠ config.symbolA ∧ bar.symbol ≠ config.symbolB
    · change _ = _ + netQuantity symbol (config.onBar sqrt bar state).1
      rw [advance_of_foreign sqrt foreign, onBar_of_foreign sqrt foreign]
      exact (add_zero _).symm
    · rw [heldOn_advance sqrt foreign, heldOn_today]
      have turned := netQuantity_of_turn (config.onBar_turn sqrt bar state) symbol
      have found : config.positionFound bar state = (today bar state).position := if_neg foreign
      rw [found] at turned
      change _ = _ + netQuantity symbol (config.onBar sqrt bar state).1
      rw [turned]
      abel
  other := by
    intro bar state d symbol otherDay nothing
    by_cases foreign : bar.symbol ≠ config.symbolA ∧ bar.symbol ≠ config.symbolB
    · rw [advance_of_foreign sqrt foreign]
      exact nothing
    · have dated : (config.onBar sqrt bar state).2.currentDate = some (barDate bar) :=
        currentDate_onBar sqrt foreign
      exact if_neg (fun same => otherDay (Option.some.inj (dated.symm.trans same)))

/-! ### Late bars -/

theorem position_of_unaligned
    (leg : ¬ (bar.symbol ≠ config.symbolA ∧ bar.symbol ≠ config.symbolB))
    (unaligned : ¬ config.Aligned bar state) :
    (config.onBar sqrt bar state).2.position = (today bar state).position := by
  have apart : config.alignedBars bar state = none := by
    by_contra aligned
    exact unaligned ⟨leg, aligned⟩
  rw [onBar_of_unaligned sqrt leg apart]
  exact config.position_storeBar bar state

theorem position_of_squareOff (late : config.squareOffTime ≤ barTime bar)
    (aligned : config.Aligned bar state) (isOpen : (today bar state).position ≠ none) :
    (config.onBar sqrt bar state).2.position = none := by
  obtain ⟨leg, paired⟩ := aligned
  obtain ⟨legs, found⟩ := Option.ne_none_iff_exists'.mp paired
  obtain ⟨spread, held⟩ := Option.ne_none_iff_exists'.mp isOpen
  obtain ⟨answered, priced⟩ := onBar_of_aligned sqrt leg found
  rw [answered, onPair_of_squareOff sqrt priced ((config.position_storeBar bar state).trans held)
    late]

theorem flat_of_silent {exchange : String} {answer : List OrderIntent} {after : Option Spread}
    (turn : SpreadTurn config exchange none answer after) (silent : answer = []) :
    after = none := by
  cases turn with
  | quiet => rfl
  | openLong => cases silent
  | openShort => cases silent

theorem position_of_quiet (leg : ¬ (bar.symbol ≠ config.symbolA ∧ bar.symbol ≠ config.symbolB))
    (quiet : config.Quiet sqrt state bar)
    (flat : (today bar state).position = none) :
    (config.onBar sqrt bar state).2.position = none := by
  have found : config.positionFound bar state = none := (if_neg leg).trans flat
  have turned := config.onBar_turn sqrt bar state
  rw [found] at turned
  have silent : (config.onBar sqrt bar state).1 = [] := by
    by_contra traded
    exact quiet ((config.trades_iff sqrt bar state).mp ⟨found, traded⟩)
  exact flat_of_silent turned silent

theorem late (config : Config) : Late (config.machine sqrt) barDate
    (fun bar => config.squareOffTime ≤ barTime bar) config.heldOn
    (config.Quiet sqrt) (fun state bar _ => config.Aligned bar state) where
  quiet := by
    intro bar state symbol isLate quiet nothing
    by_cases foreign : bar.symbol ≠ config.symbolA ∧ bar.symbol ≠ config.symbolB
    · rw [advance_of_foreign sqrt foreign]
      exact nothing
    · rw [heldOn_today] at nothing
      rw [heldOn_advance sqrt foreign]
      by_cases isOpen : (today bar state).position = none
      · rw [position_of_quiet sqrt foreign quiet isOpen]
        rfl
      · by_cases aligned : config.Aligned bar state
        · rw [position_of_squareOff sqrt isLate aligned isOpen]
          rfl
        · rw [position_of_unaligned sqrt foreign aligned]
          exact nothing
  closes := by
    intro bar state symbol isLate held
    by_cases foreign : bar.symbol ≠ config.symbolA ∧ bar.symbol ≠ config.symbolB
    · rw [advance_of_foreign sqrt foreign]
      exact iff_of_false (fun aligned => aligned.1 foreign) held
    · rw [heldOn_today] at held
      have isOpen : (today bar state).position ≠ none := by
        intro flat
        rw [flat] at held
        exact held rfl
      rw [heldOn_advance sqrt foreign]
      by_cases aligned : config.Aligned bar state
      · rw [position_of_squareOff sqrt isLate aligned isOpen]
        exact iff_of_true aligned rfl
      · rw [position_of_unaligned sqrt foreign aligned]
        exact iff_of_false aligned held

/-- No bar at or after the square-off time trades for a flat strategy. -/
def NoLateEntry (config : Config) (bars : List Domain.Bar) : Prop :=
  ∀ earlier bar later, bars = earlier ++ bar :: later → config.squareOffTime ≤ barTime bar →
    config.positionFound bar ((config.machine sqrt).after earlier) = none →
      (config.onBar sqrt bar ((config.machine sqrt).after earlier)).1 = []

theorem noLateEntry_iff (config : Config) (bars : List Domain.Bar) :
    config.NoLateEntry sqrt bars ↔
      QuietLate (config.machine sqrt) (fun bar => config.squareOffTime ≤ barTime bar)
        (config.Quiet sqrt) bars := by
  refine forall_congr' (fun earlier => forall_congr' (fun bar => forall_congr' (fun later =>
    forall_congr' (fun split => forall_congr' (fun isLate => ?_)))))
  rw [Quiet, ← config.trades_iff, not_and, not_not]

end Config

end TradingEngine.PairsTrading
