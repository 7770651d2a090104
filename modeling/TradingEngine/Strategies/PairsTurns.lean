/-
What one bar does to the spread of `PairsTradingStrategy`.

A bar leaves the spread as it is, closes it or opens it, and the intents for the two legs are
those of the change.  What is shown of the strategy's position builds on this one account.
-/

import TradingEngine.General.EventMachine
import TradingEngine.Strategies.Intraday

namespace TradingEngine.PairsTrading

open Domain Intraday
open Signals (Side)

/-- The intents for the legs are those of the change of the spread. -/
inductive SpreadTurn (config : Config) (exchange : String) :
    Option Spread → List OrderIntent → Option Spread → Prop where
  | quiet (held : Option Spread) : SpreadTurn config exchange held [] held
  | close (spread : Spread) : SpreadTurn config exchange (some spread)
      (config.closePositionIntents spread exchange) none
  | openLong : SpreadTurn config exchange none (config.createIntents .buy .sell exchange)
      (some .long)
  | openShort : SpreadTurn config exchange none (config.createIntents .sell .buy exchange)
      (some .short)

namespace Config

variable (config : Config) (sqrt : ℚ → ℚ)

def machine : EventMachine Domain.Bar PairState (List OrderIntent) :=
  { start := PairState.start
    step := config.onBar sqrt }

/-- The state in which a bar of a leg is looked at: that of the bar's day. -/
def today (bar : Domain.Bar) (state : PairState) : PairState :=
  if state.currentDate = some (barDate bar) then state else PairState.reset (barDate bar)

theorem storeBar_eq (bar : Domain.Bar) (state : PairState) :
    config.storeBar bar state =
      if bar.symbol = config.symbolA then { today bar state with lastBarA := some bar }
      else { today bar state with lastBarB := some bar } :=
  rfl

theorem position_storeBar (bar : Domain.Bar) (state : PairState) :
    (config.storeBar bar state).position = (today bar state).position := by
  rw [storeBar_eq]
  split_ifs <;> rfl

theorem currentDate_storeBar (bar : Domain.Bar) (state : PairState) :
    (config.storeBar bar state).currentDate = some (barDate bar) := by
  have dated : (today bar state).currentDate = some (barDate bar) :=
    day_today PairState.currentDate state rfl
  rw [storeBar_eq]
  split_ifs
  · exact dated
  · exact dated

theorem onZScore_turn (z : ℚ) (exchange : String) (state : PairState) :
    SpreadTurn config exchange state.position (config.onZScore z exchange state).1
      (config.onZScore z exchange state).2.position := by
  unfold onZScore
  cases held : state.position with
  | none =>
      dsimp only
      split_ifs
      · exact held ▸ .quiet state.position
      · exact .openLong
      · exact .openShort
      · exact held ▸ .quiet state.position
  | some spread =>
      cases spread with
      | long =>
          dsimp only
          split_ifs
          · exact .close .long
          · exact .close .long
          · exact held ▸ .quiet state.position
      | short =>
          dsimp only
          split_ifs
          · exact .close .short
          · exact .close .short
          · exact held ▸ .quiet state.position

theorem onRatio_turn (ratio : ℚ) (exchange : String) (state : PairState) :
    SpreadTurn config exchange state.position (config.onRatio sqrt ratio exchange state).1
      (config.onRatio sqrt ratio exchange state).2.position := by
  unfold onRatio
  dsimp only
  split_ifs
  · exact .quiet _
  · exact .quiet _
  · exact config.onZScore_turn _ exchange state

def withRatio (ratio : ℚ) (state : PairState) : PairState :=
  { state with
    ratioHistory :=
      if config.windowSize < (state.ratioHistory ++ [ratio]).length then
        (state.ratioHistory ++ [ratio]).tail
      else state.ratioHistory ++ [ratio] }

variable {config} {bar barA barB : Domain.Bar} {state : PairState}

theorem onPair_of_worthless (worthless : barB.close = 0) :
    config.onPair sqrt bar barA barB state = ([], state) :=
  if_pos worthless

theorem onPair_of_squareOff {spread : Spread} (priced : barB.close ≠ 0)
    (held : state.position = some spread) (late : config.squareOffTime ≤ barTime bar) :
    config.onPair sqrt bar barA barB state =
      (config.closePositionIntents spread bar.exchange,
        { config.withRatio (barA.close / barB.close) state with
          position := none
          exitedToday := true }) := by
  obtain ⟨currentDate, lastBarA, lastBarB, ratioHistory, position, exitedToday⟩ := state
  cases held
  unfold onPair
  rw [if_neg priced]
  exact if_pos late

theorem onPair_of_ratio (priced : barB.close ≠ 0)
    (open_ : state.position = none ∨ barTime bar < config.squareOffTime) :
    config.onPair sqrt bar barA barB state =
      config.onRatio sqrt (barA.close / barB.close) bar.exchange
        (config.withRatio (barA.close / barB.close) state) := by
  obtain ⟨currentDate, lastBarA, lastBarB, ratioHistory, position, exitedToday⟩ := state
  unfold onPair
  rw [if_neg priced]
  cases position with
  | none => rfl
  | some spread =>
      have early : ¬ config.squareOffTime ≤ barTime bar :=
        not_le.mpr (open_.resolve_left (Option.some_ne_none spread))
      exact if_neg early

variable (config)

theorem onPair_turn (bar barA barB : Domain.Bar) (state : PairState) :
    SpreadTurn config bar.exchange state.position (config.onPair sqrt bar barA barB state).1
      (config.onPair sqrt bar barA barB state).2.position := by
  by_cases worthless : barB.close = 0
  · rw [onPair_of_worthless sqrt worthless]
    exact .quiet _
  · by_cases late : config.squareOffTime ≤ barTime bar
    · cases held : state.position with
      | none =>
          rw [onPair_of_ratio sqrt worthless (Or.inl held), ← held]
          exact config.onRatio_turn sqrt _ bar.exchange (config.withRatio _ state)
      | some spread =>
          rw [onPair_of_squareOff sqrt worthless held late]
          exact .close spread
    · rw [onPair_of_ratio sqrt worthless (Or.inr (not_le.mp late))]
      exact config.onRatio_turn sqrt _ bar.exchange (config.withRatio _ state)

/-- The position that a bar finds: a bar of a leg on a new day finds none. -/
def positionFound (bar : Domain.Bar) (state : PairState) : Option Spread :=
  if bar.symbol ≠ config.symbolA ∧ bar.symbol ≠ config.symbolB then state.position
  else (today bar state).position

theorem onBar_turn (bar : Domain.Bar) (state : PairState) :
    SpreadTurn config bar.exchange (config.positionFound bar state)
      (config.onBar sqrt bar state).1 (config.onBar sqrt bar state).2.position := by
  unfold onBar positionFound
  by_cases foreign : bar.symbol ≠ config.symbolA ∧ bar.symbol ≠ config.symbolB
  · rw [if_pos foreign, if_pos foreign]
    exact .quiet _
  · rw [if_neg foreign, if_neg foreign, ← config.position_storeBar]
    dsimp only
    cases (config.storeBar bar state).lastBarA with
    | none => exact .quiet _
    | some barA =>
        cases (config.storeBar bar state).lastBarB with
        | none => exact .quiet _
        | some barB =>
            dsimp only
            split_ifs
            · exact config.onPair_turn sqrt bar barA barB _
            · exact .quiet _

/-! ### A pair of one symbol -/

/-- With one symbol for both legs no bar is stored for the second one, and the strategy
never trades. -/
theorem never_trades (same : config.symbolA = config.symbolB) (bars : List Domain.Bar) :
    ((config.machine sqrt).after bars).lastBarB = none ∧
      ((config.machine sqrt).after bars).position = none := by
  refine (config.machine sqrt).after_invariant
    (fun state => state.lastBarB = none ∧ state.position = none) ⟨rfl, rfl⟩ ?_ bars
  rintro bar state ⟨unset, flat⟩
  change (config.onBar sqrt bar state).2.lastBarB = none ∧
    (config.onBar sqrt bar state).2.position = none
  unfold onBar
  by_cases foreign : bar.symbol ≠ config.symbolA ∧ bar.symbol ≠ config.symbolB
  · rw [if_pos foreign]
    exact ⟨unset, flat⟩
  · have leg : bar.symbol = config.symbolA := by
      by_contra other
      exact foreign ⟨other, same ▸ other⟩
    have stays : (today bar state).lastBarB = none ∧ (today bar state).position = none := by
      unfold today
      split_ifs
      · exact ⟨unset, flat⟩
      · exact ⟨rfl, rfl⟩
    rw [if_neg foreign, storeBar_eq, if_pos leg]
    dsimp only
    rw [stays.1]
    exact ⟨rfl, stays.2⟩

/-! ### Net quantities -/

/-- The signed quantities of a long spread. -/
def longLegs (symbol : String) : ℤ :=
  (if config.symbolA = symbol then config.quantityA else 0) -
    (if config.symbolB = symbol then config.quantityB else 0)

def spreadPosition (held : Option Spread) (symbol : String) : ℤ :=
  match held with
  | none => 0
  | some .long => config.longLegs symbol
  | some .short => -config.longLegs symbol

/-- The position that the strategy says it holds in a symbol: a long spread is long in the
first symbol and short in the second. -/
def position (state : PairState) (symbol : String) : ℤ :=
  config.spreadPosition state.position symbol

theorem netQuantity_openLong (exchange symbol : String) :
    netQuantity symbol (config.createIntents .buy .sell exchange) = config.longLegs symbol := by
  unfold createIntents longLegs
  rw [← List.singleton_append, netQuantity_append, netQuantity_singleton,
    netQuantity_singleton]
  change (if config.symbolA = symbol then config.quantityA else 0) +
    (if config.symbolB = symbol then -config.quantityB else 0) = _
  split_ifs
  · rfl
  · exact (add_zero _).trans (sub_zero _).symm
  · exact (zero_add _).trans (zero_sub _).symm
  · rfl

theorem netQuantity_openShort (exchange symbol : String) :
    netQuantity symbol (config.createIntents .sell .buy exchange) = -config.longLegs symbol := by
  unfold createIntents longLegs
  rw [← List.singleton_append, netQuantity_append, netQuantity_singleton,
    netQuantity_singleton]
  change (if config.symbolA = symbol then -config.quantityA else 0) +
    (if config.symbolB = symbol then config.quantityB else 0) = _
  split_ifs
  · rw [neg_sub, neg_add_eq_sub]
  · rw [add_zero, sub_zero]
  · rw [zero_add, zero_sub, neg_neg]
  · rfl

theorem netQuantity_of_turn {config : Config}
    {exchange : String} {before after : Option Spread} {answer : List OrderIntent}
    (turn : SpreadTurn config exchange before answer after) (symbol : String) :
    Intraday.netQuantity symbol answer =
      config.spreadPosition after symbol - config.spreadPosition before symbol := by
  cases turn with
  | quiet held => exact (sub_self _).symm
  | close spread =>
      cases spread with
      | long => exact (config.netQuantity_openShort exchange symbol).trans (zero_sub _).symm
      | short =>
          refine (config.netQuantity_openLong exchange symbol).trans ?_
          exact (neg_neg _).symm.trans (zero_sub _).symm
  | openLong => exact (config.netQuantity_openLong exchange symbol).trans (sub_zero _).symm
  | openShort => exact (config.netQuantity_openShort exchange symbol).trans (sub_zero _).symm

theorem spreadPosition_eq_zero_iff (distinct : config.symbolA ≠ config.symbolB)
    {held : Option Spread} : config.spreadPosition held config.symbolA = 0 ↔ held = none := by
  have legs : config.longLegs config.symbolA = config.quantityA := by
    rw [longLegs, if_pos rfl, if_neg (Ne.symm distinct), sub_zero]
  cases held with
  | none => exact iff_of_true rfl rfl
  | some spread =>
      refine iff_of_false ?_ (Option.some_ne_none _)
      cases spread with
      | long => exact legs.trans_ne config.quantityA_pos.ne'
      | short =>
          change -config.longLegs config.symbolA ≠ 0
          rw [legs]
          exact (neg_neg_of_pos config.quantityA_pos).ne

end Config

end TradingEngine.PairsTrading
