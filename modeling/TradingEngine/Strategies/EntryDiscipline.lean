/-
The entry discipline of four intraday strategies.

Whatever bars come in the order of time, each strategy trades every symbol on every day with
alternating entries and exits, within its entry window and its number of trades, and flat
from the square-off time on.  The first-hour strategy also waits for its opening window.
-/

import TradingEngine.Strategies.FirstHourMomentum
import TradingEngine.Strategies.GapContinuation
import TradingEngine.Strategies.GapFade
import TradingEngine.Strategies.VwapPullback

namespace TradingEngine

open Domain Intraday
open PairsTrading (barDate barTime)

namespace FirstHourMomentum.Config

variable (config : Config)

def inSession (call : Domain.Bar × List Intent) : Bool :=
  config.sessionStart ≤ barTime call.1

/-- Before the bar of an entry the day has seen as many bars of the session as the opening
window needs. -/
def EntersAfterWindow (record : List (Domain.Bar × List Intent)) : Prop :=
  ∀ earlier bar answer, earlier ++ [(bar, answer)] <+: record →
    (∃ intent ∈ answer, config.style.isEntry intent = true) →
      config.momentumWindowMinutes ≤ earlier.countP config.inSession

/-- What the window fields show of the day up to now. -/
structure WindowShows (window : FirstWindow) (record : List (Domain.Bar × List Intent)) :
    Prop where
  bars_le : window.barsInWindow ≤ record.countP config.inSession
  complete : window.complete = true → config.momentumWindowMinutes ≤ record.countP config.inSession
  entries : config.EntersAfterWindow record

variable {config} {bar : Domain.Bar} {window : FirstWindow}

/-- A window that is complete after a bar was so before it, or closes with this bar. -/
theorem updateWindow_cases (config : Config) (bar : Domain.Bar) (window : FirstWindow) :
    config.updateWindow bar window = window ∨
      (window.complete = false ∧ config.sessionStart ≤ barTime bar ∧
        (config.updateWindow bar window).barsInWindow = window.barsInWindow + 1 ∧
        (config.updateWindow bar window).close = some bar.close ∧
        ((config.updateWindow bar window).complete = true →
          config.momentumWindowMinutes ≤ window.barsInWindow + 1)) := by
  unfold updateWindow
  by_cases complete : window.complete = true
  · rw [if_pos complete]
    exact Or.inl rfl
  · rw [if_neg complete]
    have open_ : window.complete = false := Bool.eq_false_of_not_eq_true complete
    by_cases before : barTime bar < config.sessionStart
    · rw [if_pos before]
      exact Or.inl rfl
    · rw [if_neg before]
      refine Or.inr ⟨open_, not_lt.mp before, ?_⟩
      dsimp only
      split_ifs with full
      · exact ⟨rfl, rfl, fun _ => full⟩
      · exact ⟨rfl, rfl, fun closed => absurd closed complete⟩

/-- An entry needs a window that was complete before its bar: on the bar that completes the
window the close has not gone beyond the window's close. -/
theorem complete_of_entry {state : SymbolState} {intent : Intent} {opened : Position}
    (updated : state.window = config.updateWindow bar window)
    (found : config.entry bar state = some (intent, opened)) : window.complete = true := by
  obtain ⟨allowed, entering, _⟩ := entry_cases found
  have complete := (canEnter_iff.mp allowed).1
  have beyond := (checkEntry_cases entering).2
  rw [updated] at complete beyond
  rcases config.updateWindow_cases bar window with same | ⟨_, _, _, closed, _⟩
  · rwa [same] at complete
  · exact absurd closed beyond

theorem WindowShows.step (state : SymbolState) {record : List (Domain.Bar × List Intent)}
    {answer : List Intent} (shows_ : config.WindowShows window record)
    (updated : state.window = config.updateWindow bar window)
    (entered : ∀ intent ∈ answer, config.style.isEntry intent = true →
      ∃ opened, config.entry bar state = some (intent, opened)) :
    config.WindowShows state.window (record ++ [(bar, answer)]) := by
  have grown : record.countP config.inSession ≤
      (record ++ [(bar, answer)]).countP config.inSession := by
    rw [List.countP_append]
    exact Nat.le_add_right _ _
  have entries : config.EntersAfterWindow (record ++ [(bar, answer)]) := by
    intro earlier last lastAnswer isPrefix entering
    rcases List.prefix_concat_iff.mp isPrefix with same | inside
    · obtain ⟨rfl, lastSame⟩ := List.append_inj' same rfl
      cases lastSame
      obtain ⟨intent, member, entry⟩ := entering
      obtain ⟨opened, found⟩ := entered intent member entry
      exact shows_.complete (complete_of_entry updated found)
    · exact shows_.entries earlier last lastAnswer inside entering
  rw [updated]
  rcases config.updateWindow_cases bar window with
    same | ⟨_, inside, bars, _, complete⟩
  · rw [same]
    exact
      { bars_le := shows_.bars_le.trans grown
        complete := fun closed => (shows_.complete closed).trans grown
        entries := entries }
  · have counted : (record ++ [(bar, answer)]).countP config.inSession =
        record.countP config.inSession + 1 := by
      have here : config.inSession (bar, answer) = true := decide_eq_true inside
      rw [List.countP_append, List.countP_singleton, if_pos here]
    have bounded := shows_.bars_le
    refine
      { bars_le := ?_
        complete := fun closed => ?_
        entries := entries }
    · rw [bars, counted]
      exact Nat.succ_le_succ bounded
    · rw [counted]
      exact (complete closed).trans (Nat.succ_le_succ bounded)

theorem windowShows_start (config : Config) : config.WindowShows FirstWindow.start [] :=
  { bars_le := Nat.zero_le _
    complete := fun closed => Bool.noConfusion closed
    entries := fun earlier _ _ isPrefix => absurd (List.prefix_nil.mp isPrefix)
      (List.append_ne_nil_of_right_ne_nil earlier (List.cons_ne_nil _ _)) }

theorem entry_of_isEntry {state : SymbolState} {intent : Intent}
    (member : intent ∈ (config.onSymbolBar bar state).1)
    (entry : config.style.isEntry intent = true) :
    ∃ opened, config.entry bar (config.observed bar state) = some (intent, opened) := by
  rcases mem_intents_exitOrEnter member with ⟨held, _, exiting⟩ | ⟨_, opened, found⟩
  · rw [(exits_of_checkExit exiting).reason] at entry
    cases entry
  · exact ⟨opened, found⟩

theorem windowShown (config : Config) : DayRecords.Shown config.machine barDate
    SymbolState.currentDate (fun state record => config.WindowShows state.window record) :=
  { start := rfl
    dated := config.limited.dated
    opens := by
      intro bar state other
      refine config.windowShows_start.step (config.observed bar state) ?_
        (fun intent => entry_of_isEntry)
      unfold observed
      rw [if_neg other]
      rfl
    extends_ := by
      intro bar state record same shows_
      refine shows_.step (config.observed bar state) ?_ (fun intent => entry_of_isEntry)
      unfold observed
      rw [if_pos same] }

theorem entersAfterWindow (config : Config) {bars : List Domain.Bar}
    (ordered : bars.Pairwise (fun earlier later => earlier.timestamp ≤ later.timestamp))
    (symbol : String) (d : ℤ) :
    config.EntersAfterWindow (dayRecord (config.strategy.calls bars) symbol d) := by
  rw [strategy]
  rcases shown_dayRecord config.windowShown ordered symbol d with none_ | ⟨state, shows_⟩
  · rw [none_]
    exact config.windowShows_start.entries
  · exact shows_.entries

end FirstHourMomentum.Config

/-- The days on which four strategies trade a symbol, whatever configurations they are
given. -/
def DisciplinedDay (bars : List Domain.Bar) (symbol : String) (d : ℤ) : Prop :=
  (∀ config : FirstHourMomentum.Config,
    Disciplined config.style config.limits (dayRecord (config.strategy.calls bars) symbol d) ∧
      config.EntersAfterWindow (dayRecord (config.strategy.calls bars) symbol d)) ∧
  (∀ config : GapFade.Config,
    Disciplined config.style config.limits (dayRecord (config.strategy.calls bars) symbol d)) ∧
  (∀ config : GapContinuation.Config,
    Disciplined config.style config.limits (dayRecord (config.strategy.calls bars) symbol d)) ∧
  ∀ config : VwapPullback.Config,
    Disciplined config.style config.limits (dayRecord (config.strategy.calls bars) symbol d)

theorem entry_discipline (bars : List Domain.Bar)
    (ordered : bars.Pairwise (fun earlier later => earlier.timestamp ≤ later.timestamp))
    (symbol : String) (d : ℤ) : DisciplinedDay bars symbol d :=
  ⟨fun config => ⟨config.limited.disciplined ordered symbol d,
      config.entersAfterWindow ordered symbol d⟩,
    fun config => config.limited.disciplined ordered symbol d,
    fun config => config.limited.disciplined ordered symbol d,
    fun config => config.limited.disciplined ordered symbol d⟩

/-- A day with a gap up, its confirmation and a bar at the square-off time. -/
def gapDay : List Domain.Bar :=
  [flatBar "INFY" 55000000000 100, flatBar "INFY" 119700000000 102,
    flatBar "INFY" 120000000000 103, flatBar "INFY" 141300000000 104]

theorem entry_discipline_gapDay : DisciplinedDay gapDay "INFY" 1 :=
  entry_discipline gapDay (by decide) "INFY" 1

end TradingEngine
