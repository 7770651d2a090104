/-
The square-off time of the opening range breakout and of the pairs.

Neither strategy looks at the square-off time before it enters, and both leave an open
position to the next bar that they can act on.  So a late bar may open a position, and a
position stays open over the end of the day when no such bar comes.
-/

import TradingEngine.General.DayClosing
import TradingEngine.Strategies.OpeningRangeBreakout
import TradingEngine.Strategies.OvernightPositions
import TradingEngine.Strategies.PairsSquareOff

namespace TradingEngine

open Domain Intraday
open DayClosing (ClosesLate DayBooks FlatDays Late Orderly QuietLate)
open PairsTrading (barDate barTime)

theorem orderly_of_timestamps (squareOffTime : ℤ) {bars : List Domain.Bar}
    (ordered : bars.Pairwise (fun earlier later => earlier.timestamp ≤ later.timestamp)) :
    Orderly barDate (fun bar => squareOffTime ≤ barTime bar) bars := by
  refine ordered.imp (fun {earlier later} before => ⟨?_, fun sameDay late => ?_⟩)
  · exact Int.ediv_le_ediv (by decide) before
  · unfold PairsTrading.barDate tradingDay at sameDay
    unfold PairsTrading.barTime at late ⊢
    dsimp only at late ⊢
    rw [Int.emod_def] at late ⊢
    rw [← sameDay]
    exact late.trans (sub_le_sub_right before _)

/-! ### Positions of one day -/

namespace Intraday.IntradayMachine

variable {σ : Type} (intraday : IntradayMachine σ)

/-- The position of a day in a symbol. -/
def heldOn (states : OrderedDict String σ) (d : ℤ) (symbol : String) : ℤ :=
  if intraday.day (intraday.machine.stateOf states symbol) = some d then
    intraday.position states symbol
  else 0

theorem dayBooks : DayBooks intraday.strategy barDate
    (fun answer symbol => netQuantity symbol (answer.map Intent.toOrderIntent))
    intraday.heldOn where
  start := by
    intro d symbol
    have undated : intraday.day (intraday.machine.stateOf intraday.strategy.start symbol) ≠
        some d := by
      change intraday.day intraday.machine.start ≠ some d
      rw [intraday.start_day]
      exact (Option.some_ne_none d).symm
    exact if_neg undated
  today := by
    intro bar states symbol
    have turned := (intraday.turn bar (intraday.machine.stateOf states bar.symbol)).netQuantity
      symbol
    change _ = _ + netQuantity symbol ((intraday.machine.step bar
      (intraday.machine.stateOf states bar.symbol)).1.map Intent.toOrderIntent)
    rw [turned]
    unfold heldOn position
    rw [strategy, EventMachine.stateOf_advance_keyed]
    by_cases same : bar.symbol = symbol
    · subst same
      rw [if_pos rfl, if_pos rfl, if_pos (intraday.dated bar _)]
      split_ifs
      · abel
      · change _ = 0 + (_ - 0)
        abel
    · rw [if_neg (Ne.symm same), if_neg same, add_zero]
  other := by
    intro bar states d symbol otherDay nothing
    unfold heldOn position at nothing ⊢
    rw [strategy, EventMachine.stateOf_advance_keyed]
    by_cases same : symbol = bar.symbol
    · rw [if_pos same, intraday.dated, if_neg (fun equal => otherDay (Option.some.inj equal))]
    · rw [if_neg same]
      exact nothing

theorem heldOn_ne_zero_iff {states : OrderedDict String σ} {d : ℤ} {symbol : String} :
    intraday.heldOn states d symbol ≠ 0 ↔
      intraday.day (intraday.machine.stateOf states symbol) = some d ∧
        intraday.held (intraday.machine.stateOf states symbol) ≠ none := by
  unfold heldOn position
  split_ifs with today
  · rw [Ne, signedPosition_eq_zero_iff intraday.quantity_pos]
    exact (and_iff_right today).symm
  · exact iff_of_false (fun nonzero => nonzero rfl) (fun both => today both.1)

theorem stateOf_advance_own (states : OrderedDict String σ) (bar : Domain.Bar) :
    intraday.machine.stateOf (intraday.strategy.advance states bar) bar.symbol =
      intraday.machine.advance (intraday.machine.stateOf states bar.symbol) bar := by
  rw [strategy, EventMachine.stateOf_advance_keyed, if_pos rfl]

theorem heldOn_advance_of_ne {bar : Domain.Bar} {symbol : String} (other : bar.symbol ≠ symbol)
    (states : OrderedDict String σ) (d : ℤ) :
    intraday.heldOn (intraday.strategy.advance states bar) d symbol =
      intraday.heldOn states d symbol := by
  unfold heldOn position
  rw [strategy, EventMachine.stateOf_advance_keyed, if_neg (Ne.symm other)]

end Intraday.IntradayMachine

theorem Intraday.Turn.exists_entry {style : Style} {bar : Domain.Bar} {answer : List Intent}
    {after : Option Direction} (turn : Turn style bar none answer after) (opened : after ≠ none) :
    ∃ intent ∈ answer, style.isEntry intent = true := by
  cases turn with
  | quiet => exact absurd rfl opened
  | enter direction intent enters => exact ⟨intent, List.mem_cons_self, enters.reason⟩

/-! ### The opening range breakout -/

namespace OpeningRange.Config

variable (config : Config)

/-- The bar does not break out of the range of its symbol. -/
def Quiet (states : OrderedDict String SymbolState) (bar : Domain.Bar) : Prop :=
  ¬ config.Breakout bar (config.machine.stateOf states bar.symbol)

theorem direction_advance (states : OrderedDict String SymbolState) (bar : Domain.Bar) :
    direction (config.machine.stateOf (config.strategy.advance states bar) bar.symbol) =
      direction (config.onSymbolBar bar (config.machine.stateOf states bar.symbol)).2 :=
  congrArg direction (config.intraday.stateOf_advance_own states bar)

theorem late : Late config.strategy barDate (fun bar => config.squareOffTime ≤ barTime bar)
    config.intraday.heldOn config.Quiet (fun _ bar symbol => bar.symbol = symbol) where
  quiet := by
    intro bar states symbol isLate quiet flat
    by_cases same : bar.symbol = symbol
    · subst same
      by_contra opened
      obtain ⟨_, held⟩ := config.intraday.heldOn_ne_zero_iff.mp opened
      have turned := config.intraday.turn bar (config.machine.stateOf states bar.symbol)
      have found : (if config.intraday.day (config.machine.stateOf states bar.symbol) =
          some (barDate bar) then config.intraday.held (config.machine.stateOf states bar.symbol)
          else none) = none := by
        by_contra isOpen
        obtain ⟨sameDay, isHeld⟩ := ite_ne_right_iff.mp isOpen
        exact config.intraday.heldOn_ne_zero_iff.mpr ⟨sameDay, isHeld⟩ flat
      rw [found] at turned
      have entered := turned.exists_entry
        (fun flat => held ((config.direction_advance states bar).trans flat))
      exact quiet ((config.exists_entry_iff bar _).mp entered)
    · exact (config.intraday.heldOn_advance_of_ne same states _).trans flat
  closes := by
    intro bar states symbol isLate isOpen
    constructor
    · intro same
      subst same
      obtain ⟨sameDay, held⟩ := config.intraday.heldOn_ne_zero_iff.mp isOpen
      by_contra stays
      obtain ⟨_, stillHeld⟩ := config.intraday.heldOn_ne_zero_iff.mp stays
      have isHeld : (config.machine.stateOf states bar.symbol).position ≠ none :=
        fun flat => held (congrArg (Option.map _) flat)
      have squaredOff := position_of_late isLate sameDay isHeld
      exact stillHeld ((config.direction_advance states bar).trans
        (congrArg (Option.map _) squaredOff))
    · intro closed
      by_contra other
      exact isOpen ((config.intraday.heldOn_advance_of_ne other states _).symm.trans closed)

/-- No bar at or after the square-off time is answered with an entry. -/
def NoLateEntry (bars : List Domain.Bar) : Prop :=
  ∀ call ∈ config.strategy.calls bars, config.squareOffTime ≤ barTime call.1 →
    ∀ intent ∈ call.2, config.style.isEntry intent = false

theorem noLateEntry_iff (bars : List Domain.Bar) :
    config.NoLateEntry bars ↔
      QuietLate config.strategy (fun bar => config.squareOffTime ≤ barTime bar) config.Quiet
        bars := by
  unfold NoLateEntry
  rw [EventMachine.forall_mem_calls_iff]
  refine forall_congr' (fun earlier => forall_congr' (fun bar => forall_congr' (fun later =>
    forall_congr' (fun split => forall_congr' (fun isLate => ?_)))))
  have entered := config.exists_entry_iff bar
    (config.machine.stateOf (config.strategy.after earlier) bar.symbol)
  unfold Quiet
  rw [← entered]
  constructor
  · rintro none_ ⟨intent, member, isEntry⟩
    exact absurd ((none_ intent member).symm.trans isEntry) Bool.false_ne_true
  · exact fun quiet intent member =>
      Bool.eq_false_of_not_eq_true (fun isEntry => quiet ⟨intent, member, isEntry⟩)

/-- No late entries, and flat days wherever a bar is late. -/
def SquareOffRespected (bars : List Domain.Bar) : Prop :=
  config.NoLateEntry bars ∧
    FlatDays config.strategy barDate (fun bar => config.squareOffTime ≤ barTime bar)
      (fun answer symbol => netQuantity symbol (answer.map Intent.toOrderIntent)) bars

/-- No late breakout comes, and every symbol that a late bar finds open has a bar of its own
on that day, from the late bar on. -/
def SquaresOff (bars : List Domain.Bar) : Prop :=
  QuietLate config.strategy (fun bar => config.squareOffTime ≤ barTime bar) config.Quiet bars ∧
    ClosesLate config.strategy barDate (fun bar => config.squareOffTime ≤ barTime bar)
      config.intraday.heldOn (fun _ bar symbol => bar.symbol = symbol) bars

end OpeningRange.Config

namespace PairsTrading.Config

variable (config : Config) (sqrt : ℚ → ℚ)

def SquareOffRespected (bars : List Domain.Bar) : Prop :=
  config.NoLateEntry sqrt bars ∧
    FlatDays (config.machine sqrt) barDate (fun bar => config.squareOffTime ≤ barTime bar)
      (fun answer symbol => netQuantity symbol answer) bars

/-- No late entry signal comes, and a spread that a late bar finds open has an aligned pair
of bars on that day, from the late bar on. -/
def SquaresOff (bars : List Domain.Bar) : Prop :=
  QuietLate (config.machine sqrt) (fun bar => config.squareOffTime ≤ barTime bar)
      (config.Quiet sqrt) bars ∧
    ClosesLate (config.machine sqrt) barDate (fun bar => config.squareOffTime ≤ barTime bar)
      config.heldOn (fun state bar _ => config.Aligned bar state) bars

end PairsTrading.Config

/-- A range of one bar, and its first breakout at the square-off time. -/
def lateBreakout : List Domain.Bar :=
  [flatBar "INFY" 33300000000 100, flatBar "INFY" 54900000000 105]

def rangeConfig : OpeningRange.Config :=
  { quantity_pos := Int.zero_lt_one }

theorem lateBreakout_enters : ¬ rangeConfig.SquareOffRespected lateBreakout := by
  rintro ⟨noEntry, _⟩
  revert noEntry
  unfold OpeningRange.Config.NoLateEntry
  decide +kernel

/-- An open spread, and a late bar of one leg only. -/
def missingLeg : List Domain.Bar :=
  cutPairBars.dropLast ++ [flatBar "HDFCBANK" 54900000000 200]

theorem missingLeg_open : ¬ cutPairConfig.SquareOffRespected Rat.sqrt missingLeg := by
  rintro ⟨_, flat⟩
  have total := flat (flatBar "HDFCBANK" 54900000000 200) (by decide +kernel)
    (by decide +kernel) "HDFCBANK"
  revert total
  unfold DayClosing.dayTotal
  decide +kernel

/-- The square-off is respected exactly in the runs without late signals in which every
position that a late bar finds open can still be closed on its day. -/
theorem square_off_iff {bars : List Domain.Bar}
    (ordered : bars.Pairwise (fun earlier later => earlier.timestamp ≤ later.timestamp)) :
    (∀ config : OpeningRange.Config, config.SquareOffRespected bars ↔ config.SquaresOff bars) ∧
    ∀ (config : PairsTrading.Config) (sqrt : ℚ → ℚ), config.SquareOffRespected sqrt bars ↔
      config.SquaresOff sqrt bars := by
  constructor
  · intro config
    rw [OpeningRange.Config.SquareOffRespected, config.noLateEntry_iff]
    exact DayClosing.flatDays_iff config.intraday.dayBooks config.late
      (orderly_of_timestamps config.squareOffTime ordered)
  · intro config sqrt
    rw [PairsTrading.Config.SquareOffRespected, config.noLateEntry_iff]
    exact DayClosing.flatDays_iff (config.dayBooks sqrt) (config.late sqrt)
      (orderly_of_timestamps config.squareOffTime ordered)

theorem square_off_iff_lateBreakout : ¬ rangeConfig.SquaresOff lateBreakout :=
  fun squaresOff => lateBreakout_enters
    (((square_off_iff (by decide +kernel)).1 rangeConfig).mpr squaresOff)

theorem lateBars_unrespected :
    (∀ bars ∈ [lateBreakout, missingLeg],
      bars.Pairwise (fun earlier later => earlier.timestamp ≤ later.timestamp)) ∧
    ¬ rangeConfig.SquareOffRespected lateBreakout ∧
    ¬ cutPairConfig.SquareOffRespected Rat.sqrt missingLeg :=
  ⟨by decide +kernel, lateBreakout_enters, missingLeg_open⟩

end TradingEngine
