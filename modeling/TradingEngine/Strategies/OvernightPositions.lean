/-
Positions across the day reset.

Four intraday strategies forget their state when a bar of a new day comes.  A position that
is still open then is dropped without an exit, so from there on the intents add up to
something else than the position that the strategy says it holds.
-/

import TradingEngine.General.PositionTracking
import TradingEngine.Strategies.FirstHourMomentum
import TradingEngine.Strategies.GapFade
import TradingEngine.Strategies.PairsTurns
import TradingEngine.Strategies.VwapPullback
import Mathlib.Data.Rat.Sqrt

namespace TradingEngine

open Domain Intraday
open PairsTrading (barDate barTime)

namespace Intraday

def signedPosition (quantity : ℤ) : Option Direction → ℤ
  | none => 0
  | some .long => quantity
  | some .short => -quantity

theorem Turn.netQuantity {style : Style} {bar : Domain.Bar} {before after : Option Direction}
    {answer : List Intent} (turn : Turn style bar before answer after) (symbol : String) :
    Intraday.netQuantity symbol (answer.map Intent.toOrderIntent) =
      if bar.symbol = symbol then
        signedPosition style.quantity after - signedPosition style.quantity before
      else 0 := by
  cases turn with
  | quiet held =>
      rw [sub_self, ite_self]
      rfl
  | exit direction intent exits =>
      rw [List.map_singleton, netQuantity_singleton, exits.symbol]
      apply congrArg₂ _ _ rfl
      rw [signedQuantity, exits.side, exits.quantity]
      cases direction with
      | long => exact (zero_sub _).symm
      | short => exact (neg_neg _).symm.trans (zero_sub _).symm
  | enter direction intent enters =>
      rw [List.map_singleton, netQuantity_singleton, enters.symbol]
      apply congrArg₂ _ _ rfl
      rw [signedQuantity, enters.side, enters.quantity]
      cases direction with
      | long => exact (sub_zero _).symm
      | short => exact (sub_zero _).symm

namespace IntradayMachine

variable {σ : Type} (intraday : IntradayMachine σ)

def strategy : EventMachine Domain.Bar (OrderedDict String σ) (List Intent) :=
  intraday.machine.keyed Domain.Bar.symbol

/-- The position that the strategy says it holds in a symbol. -/
def position (states : OrderedDict String σ) (symbol : String) : ℤ :=
  signedPosition intraday.style.quantity (intraday.held (intraday.machine.stateOf states symbol))

/-- The position in a symbol is, all through the run, the signed sum of its intents. -/
def Tracks (bars : List Domain.Bar) : Prop :=
  PositionTracking.Tracks intraday.strategy
    (fun answer symbol => netQuantity symbol (answer.map Intent.toOrderIntent))
    intraday.position bars

/-- The bar is of the day that its symbol is in, or finds its symbol flat. -/
def KeepsPosition (states : OrderedDict String σ) (bar : Domain.Bar) : Prop :=
  intraday.day (intraday.machine.stateOf states bar.symbol) = some (barDate bar) ∨
    intraday.held (intraday.machine.stateOf states bar.symbol) = none

instance (states : OrderedDict String σ) (bar : Domain.Bar) :
    Decidable (intraday.KeepsPosition states bar) :=
  inferInstanceAs (Decidable (_ ∨ _))

/-- No bar of a new day comes for a symbol with an open position. -/
def KeepsPositions (bars : List Domain.Bar) : Prop :=
  EventRun.Admissible intraday.strategy.advance intraday.KeepsPosition intraday.strategy.start
    bars

instance (bars : List Domain.Bar) : Decidable (intraday.KeepsPositions bars) :=
  EventRun.decidableAdmissible _ bars

/-- The position that the day reset of a bar drops. -/
def dropped (states : OrderedDict String σ) (bar : Domain.Bar) (symbol : String) : ℤ :=
  if bar.symbol = symbol ∧
      intraday.day (intraday.machine.stateOf states symbol) ≠ some (barDate bar) then
    intraday.position states symbol
  else 0

theorem books : PositionTracking.Books intraday.strategy
    (fun answer symbol => netQuantity symbol (answer.map Intent.toOrderIntent))
    intraday.position intraday.dropped :=
  { start := fun _ => congrArg (signedPosition _) intraday.start_held
    step := by
      intro bar states symbol
      have turned := (intraday.turn bar (intraday.machine.stateOf states bar.symbol)).netQuantity
        symbol
      change intraday.position (intraday.strategy.advance states bar) symbol = _ - _ +
        netQuantity symbol ((intraday.machine.step bar
          (intraday.machine.stateOf states bar.symbol)).1.map Intent.toOrderIntent)
      rw [turned, position, strategy, EventMachine.stateOf_advance_keyed]
      by_cases same : bar.symbol = symbol
      · subst same
        rw [if_pos rfl, if_pos rfl]
        by_cases today :
            intraday.day (intraday.machine.stateOf states bar.symbol) = some (barDate bar)
        · rw [dropped, if_neg (fun other => other.2 today), if_pos today, position]
          abel
        · rw [dropped, if_pos ⟨rfl, today⟩, if_neg today, sub_self, signedPosition]
          abel
      · rw [if_neg (Ne.symm same), if_neg same, dropped, if_neg (fun both => same both.1),
          position]
        abel }

theorem signedPosition_eq_zero_iff {quantity : ℤ} (positive : 0 < quantity)
    {held : Option Direction} : signedPosition quantity held = 0 ↔ held = none := by
  cases held with
  | none => exact iff_of_true rfl rfl
  | some direction =>
      refine iff_of_false ?_ (Option.some_ne_none _)
      cases direction with
      | long => exact positive.ne'
      | short => exact (neg_neg_of_pos positive).ne

theorem keepsPosition_iff (states : OrderedDict String σ) (bar : Domain.Bar) :
    intraday.KeepsPosition states bar ↔ ∀ symbol, intraday.dropped states bar symbol = 0 := by
  constructor
  · intro keeps symbol
    unfold dropped
    split_ifs with both
    · obtain ⟨rfl, other⟩ := both
      exact (signedPosition_eq_zero_iff intraday.quantity_pos).mpr (keeps.resolve_left other)
    · rfl
  · intro nothing
    by_cases today :
        intraday.day (intraday.machine.stateOf states bar.symbol) = some (barDate bar)
    · exact Or.inl today
    · have lost := nothing bar.symbol
      rw [dropped, if_pos ⟨rfl, today⟩] at lost
      exact Or.inr ((signedPosition_eq_zero_iff intraday.quantity_pos).mp lost)

theorem tracks_iff (bars : List Domain.Bar) :
    intraday.Tracks bars ↔ intraday.KeepsPositions bars :=
  intraday.books.tracks_iff (fun _ bar => intraday.keepsPosition_iff _ bar) bars

end IntradayMachine

end Intraday

/-! ### Pairs -/

namespace PairsTrading.Config

variable (config : Config) (sqrt : ℚ → ℚ)

/-- The position in a symbol is, all through the run, the signed sum of its intents. -/
def Tracks (bars : List Domain.Bar) : Prop :=
  PositionTracking.Tracks (config.machine sqrt)
    (fun answer symbol => netQuantity symbol answer) config.position bars

/-- The bar is of another symbol, or of the day of the state, or finds the spread flat. -/
def KeepsPosition (state : PairState) (bar : Domain.Bar) : Prop :=
  (bar.symbol ≠ config.symbolA ∧ bar.symbol ≠ config.symbolB) ∨
    state.currentDate = some (barDate bar) ∨ state.position = none

instance (state : PairState) (bar : Domain.Bar) : Decidable (config.KeepsPosition state bar) :=
  inferInstanceAs (Decidable (_ ∨ _))

/-- No bar of a new day comes for a leg of an open spread. -/
def KeepsPositions (bars : List Domain.Bar) : Prop :=
  EventRun.Admissible (config.machine sqrt).advance config.KeepsPosition PairState.start bars

instance (bars : List Domain.Bar) : Decidable (config.KeepsPositions sqrt bars) :=
  EventRun.decidableAdmissible _ bars

/-- The position that the day reset of a bar drops. -/
def dropped (state : PairState) (bar : Domain.Bar) (symbol : String) : ℤ :=
  config.position state symbol - config.spreadPosition (config.positionFound bar state) symbol

theorem books : PositionTracking.Books (config.machine sqrt)
    (fun answer symbol => netQuantity symbol answer) config.position config.dropped :=
  { start := fun _ => rfl
    step := by
      intro bar state symbol
      have turned := netQuantity_of_turn (config.onBar_turn sqrt bar state) symbol
      change config.spreadPosition (config.onBar sqrt bar state).2.position symbol =
        config.position state symbol - config.dropped state bar symbol +
          netQuantity symbol (config.onBar sqrt bar state).1
      rw [turned, dropped]
      abel }

theorem dropped_of_keeps {state : PairState} {bar : Domain.Bar}
    (keeps : config.KeepsPosition state bar) (symbol : String) :
    config.dropped state bar symbol = 0 := by
  have found : config.positionFound bar state = state.position := by
    unfold positionFound
    split_ifs with foreign
    · rfl
    · rcases keeps.resolve_left foreign with same | flat
      · rw [today, if_pos same]
      · unfold today
        split_ifs
        · rfl
        · exact flat.symm
  rw [dropped, found]
  exact sub_self _

theorem keeps_of_dropped (distinct : config.symbolA ≠ config.symbolB) {state : PairState}
    {bar : Domain.Bar} (nothing : ∀ symbol, config.dropped state bar symbol = 0) :
    config.KeepsPosition state bar := by
  by_contra breaks
  obtain ⟨leg, other, held⟩ : ¬ (bar.symbol ≠ config.symbolA ∧ bar.symbol ≠ config.symbolB) ∧
      state.currentDate ≠ some (barDate bar) ∧ state.position ≠ none := by
    simpa only [KeepsPosition, not_or] using breaks
  have found : config.positionFound bar state = none := by
    rw [positionFound, if_neg leg, today, if_neg other]
    rfl
  have lost := nothing config.symbolA
  rw [dropped, found] at lost
  exact held ((config.spreadPosition_eq_zero_iff distinct).mp ((sub_zero _).symm.trans lost))

theorem tracks_iff (bars : List Domain.Bar) :
    config.Tracks sqrt bars ↔ config.KeepsPositions sqrt bars := by
  refine (config.books sqrt).tracks_iff (fun earlier bar => ?_) bars
  refine ⟨fun keeps => config.dropped_of_keeps keeps, fun nothing => ?_⟩
  by_cases distinct : config.symbolA = config.symbolB
  · exact Or.inr (Or.inr (config.never_trades sqrt distinct earlier).2)
  · exact config.keeps_of_dropped distinct nothing

end PairsTrading.Config

/-! ### The four strategies -/

/-- The intents add up to the position exactly in the runs in which no bar of a new day comes
for an open position. -/
theorem positions_tracked_iff (bars : List Domain.Bar) :
    (∀ config : FirstHourMomentum.Config, config.limited.intraday.Tracks bars ↔
      config.limited.intraday.KeepsPositions bars) ∧
    (∀ config : GapFade.Config, config.limited.intraday.Tracks bars ↔
      config.limited.intraday.KeepsPositions bars) ∧
    (∀ config : VwapPullback.Config, config.limited.intraday.Tracks bars ↔
      config.limited.intraday.KeepsPositions bars) ∧
    ∀ (config : PairsTrading.Config) (sqrt : ℚ → ℚ), config.Tracks sqrt bars ↔
      config.KeepsPositions sqrt bars :=
  ⟨fun config => config.limited.intraday.tracks_iff bars,
    fun config => config.limited.intraday.tracks_iff bars,
    fun config => config.limited.intraday.tracks_iff bars,
    fun config sqrt => config.tracks_iff sqrt bars⟩

/-- A session that ends after an entry, and the first bar of the next one. -/
def momentumBars : List Domain.Bar :=
  FirstHourMomentum.risingBars ++ [flatBar "INFY" 119700000000 102]

def fadeConfig : GapFade.Config :=
  { quantity := 1
    quantity_pos := Int.zero_lt_one
    minGapBps := 61
    stopLossBps := 83
    targetBps := some 97
    one_le_trades := Nat.one_pos }

def fadeBars : List Domain.Bar :=
  [flatBar "INFY" 33300000000 100, flatBar "INFY" 119700000000 102,
    flatBar "INFY" 120000000000 101, flatBar "INFY" 206100000000 101]

def pullbackConfig : VwapPullback.Config :=
  { quantity := 1
    quantity_pos := Int.zero_lt_one
    vwapSlopeLookbackBars := 2
    one_le_lookback := Nat.two_pos
    minBarsBeforeTrading := 2
    lookback_le_bars := Nat.le.refl
    pullbackToleranceBps := 19
    targetBps := 87
    one_le_trades := Nat.one_pos }

def pullbackBars : List Domain.Bar :=
  [flatBar "INFY" 34200000000 1000, flatBar "INFY" 34260000000 1003,
    flatBar "INFY" 119700000000 1003]

def cutPairConfig : PairsTrading.Config :=
  { windowSize := 4
    entryZScore := 11 / 10
    quantityA_pos := Int.zero_lt_one
    quantityB_pos := Int.zero_lt_one }

def cutPairBars : List Domain.Bar :=
  [flatBar "HDFCBANK" 33300000000 100, flatBar "ICICIBANK" 33300000000 100,
    flatBar "HDFCBANK" 33360000000 100, flatBar "ICICIBANK" 33360000000 100,
    flatBar "HDFCBANK" 33420000000 100, flatBar "ICICIBANK" 33420000000 100,
    flatBar "HDFCBANK" 33480000000 200, flatBar "ICICIBANK" 33480000000 100,
    flatBar "HDFCBANK" 119700000000 200]

theorem cutSessions_untracked :
    (∀ bars ∈ [momentumBars, fadeBars, pullbackBars, cutPairBars],
      bars.Pairwise (fun earlier later => earlier.timestamp ≤ later.timestamp)) ∧
    ¬ FirstHourMomentum.shortWindow.limited.intraday.Tracks momentumBars ∧
    ¬ fadeConfig.limited.intraday.Tracks fadeBars ∧
    ¬ pullbackConfig.limited.intraday.Tracks pullbackBars ∧
    ¬ cutPairConfig.Tracks Rat.sqrt cutPairBars := by
  rw [IntradayMachine.tracks_iff, IntradayMachine.tracks_iff, IntradayMachine.tracks_iff,
    PairsTrading.Config.tracks_iff]
  decide +kernel

end TradingEngine
