/-
The trailing stop of `FirstHourMomentumStrategy`.

The stop is kept bar by bar from a running extreme.  While a position is open it is the
fraction off the best price since the entry, so it only ever moves with the position.
-/

import TradingEngine.Strategies.FirstHourMomentum
import Mathlib.Algebra.Order.Field.Basic

namespace TradingEngine.FirstHourMomentum

open Domain Intraday
open PairsTrading (barDate barTime)

/-- The highest price since the entry of a long position, the lowest of a short one. -/
def bestPrice (side : Direction) (entryPrice : ℚ) (since : List Domain.Bar) : ℚ :=
  match side with
  | .long => (since.map Domain.Bar.high).foldl max entryPrice
  | .short => (since.map Domain.Bar.low).foldl min entryPrice

/-- A stop that is at least as close to the price of the position. -/
def NotLoosened (side : Direction) (stop later : ℚ) : Prop :=
  match side with
  | .long => stop ≤ later
  | .short => later ≤ stop

namespace Config

variable {config : Config} {bar : Domain.Bar} {held : Position} {bps entryPrice : ℚ}
  {since : List Domain.Bar}

/-- The trailing fields of a position after the bars since its entry. -/
structure Trails (bps entryPrice : ℚ) (since : List Domain.Bar) (held : Position) : Prop where
  atEntry : held.entryPrice = entryPrice
  extreme : held.extreme = some (bestPrice held.side entryPrice since)
  stop : held.trailingStopPrice =
    some (held.side.against (bestPrice held.side entryPrice since) (fraction bps))

theorem newExtreme_eq_bestPrice
    (kept : held.extreme = some (bestPrice held.side entryPrice since)) :
    newExtreme bar held = bestPrice held.side entryPrice (since ++ [bar]) := by
  unfold newExtreme
  cases sided : held.side with
  | long =>
      rw [kept, sided]
      simp only [bestPrice, List.map_append, List.foldl_append, List.map_singleton,
        List.foldl_cons, List.foldl_nil]
      exact (max_def_lt _ _).symm
  | short =>
      rw [kept, sided]
      simp only [bestPrice, List.map_append, List.foldl_append, List.map_singleton,
        List.foldl_cons, List.foldl_nil]
      rw [min_comm]
      exact (min_def_lt _ _).symm

theorem fraction_lt_one (below : bps < 10000) : fraction bps < 1 :=
  (div_lt_one (by norm_num)).mpr below

theorem against_notLoosened (positive : 0 < bps) (below : bps < 10000) (side : Direction)
    (entryPrice : ℚ) (since : List Domain.Bar) (bar : Domain.Bar) :
    NotLoosened side (side.against (bestPrice side entryPrice since) (fraction bps))
      (side.against (bestPrice side entryPrice (since ++ [bar])) (fraction bps)) := by
  cases side with
  | long =>
      have factor : 0 ≤ 1 - fraction bps := sub_nonneg.mpr (fraction_lt_one below).le
      apply mul_le_mul_of_nonneg_right _ factor
      simp only [bestPrice, List.map_append, List.foldl_append, List.map_singleton,
        List.foldl_cons, List.foldl_nil]
      exact le_max_left _ _
  | short =>
      have factor : 0 ≤ 1 + fraction bps :=
        add_nonneg zero_le_one (div_nonneg positive.le (by norm_num))
      apply mul_le_mul_of_nonneg_right _ factor
      simp only [bestPrice, List.map_append, List.foldl_append, List.map_singleton,
        List.foldl_cons, List.foldl_nil]
      exact min_le_left _ _

theorem tightened_of_notLoosened {side : Direction} {stop newTrail : ℚ}
    (closer : NotLoosened side stop newTrail) : tightened side newTrail stop = newTrail := by
  cases side with
  | long => exact (max_def_lt stop newTrail).symm.trans (max_eq_right closer)
  | short => exact (min_def_lt newTrail stop).symm.trans (min_eq_left closer)

theorem Trails.update (trails : Trails bps entryPrice since held)
    (trailing : config.trailingStopBps = some bps) (below : bps < 10000) (bar : Domain.Bar) :
    Trails bps entryPrice (since ++ [bar]) (config.updateTrailingStop bar held) := by
  have updated : config.updateTrailingStop bar held =
      { held with
        extreme := some (newExtreme bar held)
        trailingStopPrice := some (tightened held.side
          (held.side.against (newExtreme bar held) (fraction bps))
          (held.side.against (bestPrice held.side entryPrice since) (fraction bps))) } := by
    unfold updateTrailingStop
    rw [trailing, trails.stop]
  have extreme : newExtreme bar held = bestPrice held.side entryPrice (since ++ [bar]) :=
    newExtreme_eq_bestPrice trails.extreme
  have closer := against_notLoosened (config.trailingStop_pos bps trailing) below held.side
    entryPrice since bar
  rw [updated, extreme, tightened_of_notLoosened closer]
  exact
    { atEntry := trails.atEntry
      extreme := rfl
      stop := rfl }

theorem trails_openPosition (trailing : config.trailingStopBps = some bps) (side : Direction) :
    Trails bps bar.close [] (config.openPosition bar side) := by
  unfold openPosition
  rw [trailing]
  cases side with
  | long => exact { atEntry := rfl, extreme := rfl, stop := rfl }
  | short => exact { atEntry := rfl, extreme := rfl, stop := rfl }

theorem position_onSymbolBar {state : SymbolState} {next : Position}
    (open_ : (config.onSymbolBar bar state).2.position = some next) :
    (∃ before, state.position = some before ∧ next = config.updateTrailingStop bar before ∧
        (config.onSymbolBar bar state).1 = []) ∨
      ∃ intent, (config.onSymbolBar bar state).1 = [intent] ∧
        config.style.Enters bar next.side intent ∧
        next = config.openPosition bar next.side := by
  rcases position_exitOrEnter open_ with ⟨seen, quiet⟩ | ⟨intent, _, found, answered⟩
  · left
    unfold observed at seen
    split_ifs at seen
    · obtain ⟨before, held, rfl⟩ := Option.map_eq_some_iff.mp seen
      exact ⟨before, held, rfl, quiet⟩
    · cases seen
  · right
    obtain ⟨_, entering, opened⟩ := entry_cases found
    exact ⟨intent, answered, (checkEntry_cases entering).1, opened⟩

/-- The position was opened on the first bar of `entryBar :: since`, and nothing was traded
on the bars after it. -/
structure OpenSince (config : Config) (bars earlier : List Domain.Bar) (entryBar : Domain.Bar)
    (since : List Domain.Bar) (held : Position) : Prop where
  bars_eq : bars = earlier ++ entryBar :: since
  entered : ∃ intent, (config.machine.step entryBar (config.machine.after earlier)).1 = [intent] ∧
    config.style.Enters entryBar held.side intent
  quiet : ∀ call ∈ config.machine.callsFrom (config.machine.after (earlier ++ [entryBar])) since,
    call.2 = []

/-- Every open position has an entry, and its trailing fields follow from the bars since. -/
theorem openSince_trails (trailing : config.trailingStopBps = some bps) (below : bps < 10000)
    {bars : List Domain.Bar} (open_ : (config.machine.after bars).position = some held) :
    ∃ earlier entryBar since, config.OpenSince bars earlier entryBar since held ∧
      Trails bps entryBar.close since held := by
  induction bars using List.reverseRecOn generalizing held with
  | nil => cases open_
  | append_singleton before bar ih =>
      rw [EventMachine.after_concat] at open_
      rcases position_onSymbolBar open_ with
        ⟨last, held_, rfl, quiet⟩ | ⟨intent, answered, enters, opened⟩
      · obtain ⟨earlier, entryBar, since, openSince, trails⟩ := ih held_
        refine ⟨earlier, entryBar, since ++ [bar], ?_, trails.update trailing below bar⟩
        have sided : (config.updateTrailingStop bar last).side = last.side :=
          side_updateTrailingStop last
        refine
          { bars_eq := ?_
            entered := sided ▸ openSince.entered
            quiet := ?_ }
        · rw [openSince.bars_eq, List.append_assoc, List.cons_append]
        · rw [EventMachine.callsFrom_append, ← EventMachine.after_append, List.append_assoc,
            List.singleton_append, ← openSince.bars_eq]
          exact List.forall_mem_append.mpr
            ⟨openSince.quiet, List.forall_mem_singleton.mpr quiet⟩
      · refine ⟨before, bar, [], ?_, opened ▸ trails_openPosition trailing held.side⟩
        exact
          { bars_eq := rfl
            entered := ⟨intent, answered, enters⟩
            quiet := fun _ member => absurd member List.not_mem_nil }

/-- What holds of an open position and of every further bar of its symbol. -/
structure TrailingLaw (config : Config) (bps : ℚ) (bars : List Domain.Bar) (held : Position)
    (earlier : List Domain.Bar) (entryBar : Domain.Bar) (since : List Domain.Bar) : Prop where
  openSince : config.OpenSince bars earlier entryBar since held
  entryPrice : held.entryPrice = entryBar.close
  stop : held.trailingStopPrice =
    some (held.side.against (bestPrice held.side entryBar.close since) (fraction bps))
  checked : ∀ bar, (config.updateTrailingStop bar held).trailingStopPrice =
    some (held.side.against (bestPrice held.side entryBar.close (since ++ [bar])) (fraction bps))
  notLoosened : ∀ bar, NotLoosened held.side
    (held.side.against (bestPrice held.side entryBar.close since) (fraction bps))
    (held.side.against (bestPrice held.side entryBar.close (since ++ [bar])) (fraction bps))
  heldThrough : ∀ bar next,
    (config.machine.step bar (config.machine.after bars)).1 = [] →
      (config.machine.after (bars ++ [bar])).position = some next →
        next = config.updateTrailingStop bar held

/-- The trailing stop of an open position is the fraction off the best price since its entry,
also where a further bar is checked against it, and a further bar never loosens it. -/
theorem trailing_stop_ratchets (config : Config) (trailing : config.trailingStopBps = some bps)
    (below : bps < 10000) (bars : List Domain.Bar) (symbol : String)
    (open_ : (config.machine.stateOf (config.strategy.after bars) symbol).position = some held) :
    ∃ earlier entryBar since,
      config.TrailingLaw bps (bars.filter (fun bar => bar.symbol = symbol)) held earlier entryBar
        since := by
  rw [strategy, EventMachine.stateOf_after_keyed] at open_
  obtain ⟨earlier, entryBar, since, openSince, trails⟩ :=
    openSince_trails trailing below open_
  refine ⟨earlier, entryBar, since, ?_⟩
  exact
    { openSince := openSince
      entryPrice := trails.atEntry
      stop := trails.stop
      checked := fun bar => by
        rw [(trails.update trailing below bar).stop, side_updateTrailingStop]
      notLoosened := against_notLoosened (config.trailingStop_pos bps trailing) below held.side
        entryBar.close since
      heldThrough := by
        intro bar next quiet stays
        rw [EventMachine.after_concat] at stays
        rcases position_onSymbolBar stays with ⟨before, same, updated, _⟩ | ⟨intent, traded, _⟩
        · rw [open_] at same
          rw [updated, ← Option.some.inj same]
        · exact absurd (quiet.symm.trans traded) (List.cons_ne_nil _ _).symm }

end Config

def trailingConfig : Config :=
  { shortWindow with
    trailingStopBps := some 50
    trailingStop_pos := by simp }

/-- The long position of the rising bars, one bar later. -/
def risenPosition : Position :=
  trailingConfig.updateTrailingStop (flatBar "INFY" 35580000000 103)
    (trailingConfig.openPosition (flatBar "INFY" 35520000000 102) .long)

theorem trailing_stop_risen :
    ∃ earlier entryBar since, trailingConfig.TrailingLaw 50
      ((risingBars ++ [flatBar "INFY" 35580000000 103]).filter
        (fun bar => bar.symbol = "INFY")) risenPosition earlier entryBar since :=
  trailingConfig.trailing_stop_ratchets rfl (by norm_num)
    (risingBars ++ [flatBar "INFY" 35580000000 103]) "INFY" (by decide +kernel)

end TradingEngine.FirstHourMomentum
