/-
What an intraday strategy has to know of its day.

The VWAP is the mean price of the bars of the day.  The entries of the day are counted, the last
one is known until the position is left, and the position is what it opened and the bars since
have made of it.
-/

import Mathlib.Data.List.DropRight
import TradingEngine.Strategies.IntradayMachine

namespace TradingEngine.Intraday

open Domain
open PairsTrading (barDate barTime)

/-! ### The VWAP of a day -/

def priceVolume (bar : Domain.Bar) : ℚ :=
  if 0 < bar.volume then (bar.high + bar.low + bar.close) / 3 * bar.volume else bar.close

def weight (bar : Domain.Bar) : ℕ :=
  if 0 < bar.volume then bar.volume else 1

/-- The mean price of the bars, weighted by their volumes. -/
def dayVwap (seen : List Domain.Bar) : ℚ :=
  (seen.map priceVolume).sum / ((seen.map weight).sum : ℕ)

/-- The sums that the strategy has after the bars of a day. -/
def sessionOf (seen : List Domain.Bar) : SessionVwap :=
  { cumulativePv := (seen.map priceVolume).sum
    cumulativeVol := (seen.map weight).sum
    vwap := if seen = [] then none else some (dayVwap seen) }

@[simp] theorem sessionOf_nil : sessionOf [] = SessionVwap.start :=
  rfl

theorem vwap_sessionOf_concat (seen : List Domain.Bar) (bar : Domain.Bar) :
    (sessionOf (seen ++ [bar])).vwap = some (dayVwap (seen ++ [bar])) :=
  if_neg (List.append_ne_nil_of_right_ne_nil seen (List.cons_ne_nil _ _))

theorem sessionOf_concat (seen : List Domain.Bar) (bar : Domain.Bar) :
    (sessionOf seen).update bar = sessionOf (seen ++ [bar]) := by
  have some_ : (seen ++ [bar]) ≠ [] :=
    List.append_ne_nil_of_right_ne_nil seen (List.cons_ne_nil _ _)
  unfold sessionOf
  rw [if_neg some_]
  unfold dayVwap SessionVwap.update priceVolume weight
  simp only [List.map_append, List.sum_append, List.map_singleton, List.sum_singleton]
  split_ifs with traded
  · rfl
  · rfl

/-! ### Entries -/

def Intent.direction (intent : Intent) : Direction :=
  match intent.side with
  | .buy => .long
  | .sell => .short

namespace Style

theorem Enters.direction {style : Style} {bar : Domain.Bar} {direction : Direction}
    {intent : Intent} (enters : style.Enters bar direction intent) :
    intent.direction = direction := by
  unfold Intent.direction
  rw [enters.side]
  cases direction with
  | long => rfl
  | short => rfl

variable (style : Style)

def entriesIn (record : List (Domain.Bar × List Intent)) : ℕ :=
  (intentsOf record).countP style.isEntry

/-- The bar of the last entry, if it has not been left again. -/
def openedAt (record : List (Domain.Bar × List Intent)) : Option Domain.Bar :=
  ((record.filter (fun call => call.2 ≠ [])).getLast?.filter
    (fun call => call.2.any style.isEntry)).map Prod.fst

theorem openedAt_concat (record : List (Domain.Bar × List Intent)) (bar : Domain.Bar)
    (answer : List Intent) :
    style.openedAt (record ++ [(bar, answer)]) =
      if answer = [] then style.openedAt record
      else if answer.any style.isEntry then some bar
      else none := by
  unfold openedAt
  rw [List.filter_append, List.filter_singleton]
  by_cases silent : answer = []
  · rw [if_pos silent, decide_eq_false (not_not.mpr silent), cond_false, List.append_nil]
  · rw [if_neg silent, decide_eq_true silent, cond_true, List.getLast?_append,
      List.getLast?_singleton, Option.some_or, Option.filter_some]
    dsimp only
    split_ifs with opens
    · rfl
    · rfl

theorem entriesIn_concat (record : List (Domain.Bar × List Intent)) (bar : Domain.Bar)
    (answer : List Intent) :
    style.entriesIn (record ++ [(bar, answer)]) =
      style.entriesIn record + answer.countP style.isEntry := by
  unfold entriesIn
  rw [intentsOf_concat, List.countP_append]

variable {style}

theorem entriesIn_pos {record : List (Domain.Bar × List Intent)} {opening : Domain.Bar}
    (opened : style.openedAt record = some opening) : 0 < style.entriesIn record := by
  obtain ⟨call, last, _⟩ := Option.map_eq_some_iff.mp opened
  obtain ⟨final, enters⟩ := Option.filter_eq_some_iff.mp last
  obtain ⟨intent, answered, entry⟩ := List.any_eq_true.mp enters
  have member : call ∈ record := List.mem_of_mem_filter (List.mem_of_getLast? final)
  exact List.countP_pos_iff.mpr ⟨intent, List.mem_flatMap.mpr ⟨call, member, answered⟩, entry⟩

theorem openedAt_of_silent {record : List (Domain.Bar × List Intent)}
    (silent : ∀ call ∈ record, call.2 = []) : style.openedAt record = none := by
  unfold openedAt
  rw [List.filter_eq_nil_iff.mpr (fun call member => by simp [silent call member])]
  rfl

/-! ### The position -/

def lastEntry (record : List (Domain.Bar × List Intent)) : Option (Domain.Bar × Intent) :=
  (record.filter (fun call => call.2 ≠ [])).getLast?.bind
    (fun call => (call.2.find? style.isEntry).map (Prod.mk call.1))

/-- The bars after the last answer. -/
def barsSince (record : List (Domain.Bar × List Intent)) : List Domain.Bar :=
  (record.rtakeWhile (fun call => call.2 = [])).map Prod.fst

variable {P : Type} (opens : Domain.Bar → Intent → P) (follow : Domain.Bar → P → P)

/-- What the last entry has opened, as the bars since have left it. -/
def heldBy (record : List (Domain.Bar × List Intent)) : Option P :=
  (style.lastEntry record).map (fun entry =>
    (barsSince record).foldl (fun held bar => follow bar held) (opens entry.1 entry.2))

theorem heldBy_silent (record : List (Domain.Bar × List Intent)) (bar : Domain.Bar) :
    style.heldBy opens follow (record ++ [(bar, [])]) =
      (style.heldBy opens follow record).map (follow bar) := by
  have since : barsSince (record ++ [(bar, [])]) = barsSince record ++ [bar] := by
    unfold barsSince
    rw [List.rtakeWhile_concat_pos _ _ _ (by simp), List.map_append, List.map_singleton]
  have last : style.lastEntry (record ++ [(bar, [])]) = style.lastEntry record := by
    unfold lastEntry
    rw [List.filter_append, List.filter_singleton, decide_eq_false (not_not.mpr rfl), cond_false,
      List.append_nil]
  unfold heldBy
  rw [since, last, Option.map_map]
  congr 1
  funext entry
  rw [List.foldl_append]
  rfl

theorem heldBy_traded (record : List (Domain.Bar × List Intent)) (bar : Domain.Bar)
    (intent : Intent) :
    style.heldBy opens follow (record ++ [(bar, [intent])]) =
      if style.isEntry intent then some (opens bar intent) else none := by
  have since : barsSince (record ++ [(bar, [intent])]) = [] := by
    unfold barsSince
    rw [List.rtakeWhile_concat_neg _ _ _ (by simp), List.map_nil]
  have last : style.lastEntry (record ++ [(bar, [intent])]) =
      if style.isEntry intent then some (bar, intent) else none := by
    unfold lastEntry
    rw [List.filter_append, List.filter_singleton, decide_eq_true (List.cons_ne_nil _ _),
      cond_true, List.getLast?_append, List.getLast?_singleton, Option.some_or, Option.bind_some]
    dsimp only
    rw [List.find?_singleton]
    split_ifs
    · rfl
    · rfl
  unfold heldBy
  rw [since, last]
  split_ifs
  · rfl
  · rfl

@[simp] theorem heldBy_nil : style.heldBy opens follow [] = none :=
  rfl

@[simp] theorem entriesIn_nil : style.entriesIn [] = 0 :=
  rfl

variable {opens follow} {position : Option P} {exit : P → Option Intent}
  {entry : Option (Intent × P)}

theorem heldBy_eq_none_iff {record : List (Domain.Bar × List Intent)} :
    style.heldBy opens follow record = none ↔ style.lastEntry record = none :=
  Option.map_eq_none_iff

theorem intents_exitOrEnter (position : Option P) (exit : P → Option Intent)
    (entry : Option (Intent × P)) :
    (exitOrEnter position exit entry).intents =
      position.elim (entry.map Prod.fst).toList (fun held => (exit held).toList) := by
  unfold exitOrEnter
  cases position with
  | some held =>
      cases exiting : exit held with
      | some intent => simp [BarAction.intents, exiting]
      | none => simp [BarAction.intents, exiting]
  | none =>
      cases entry with
      | some found => rfl
      | none => rfl

theorem tracked_exitOrEnter {record : List (Domain.Bar × List Intent)} {bar : Domain.Bar}
    (tracked : position = (style.heldBy opens follow record).map (follow bar))
    (exits : ∀ held intent, exit held = some intent → style.isEntry intent = false)
    (enters : ∀ intent opened, entry = some (intent, opened) →
      style.isEntry intent = true ∧ opened = opens bar intent) :
    (exitOrEnter position exit entry).position position =
        style.heldBy opens follow
          (record ++ [(bar, (exitOrEnter position exit entry).intents)]) ∧
      (exitOrEnter position exit entry).tradesTaken (style.entriesIn record) =
        style.entriesIn (record ++ [(bar, (exitOrEnter position exit entry).intents)]) := by
  rcases exitOrEnter_cases position exit entry with ⟨held, intent, holding, exiting, action⟩ |
    ⟨held, holding, kept, action⟩ | ⟨intent, opened, flat, entering, action⟩ | ⟨flat, _, action⟩
  · have sold := exits held intent exiting
    rw [action, BarAction.intents, heldBy_traded, entriesIn_concat]
    simp [BarAction.position, BarAction.tradesTaken, sold]
  · rw [action, BarAction.intents, heldBy_silent, entriesIn_concat]
    exact ⟨tracked, rfl⟩
  · obtain ⟨bought, same⟩ := enters intent opened entering
    rw [action, BarAction.intents, heldBy_traded, entriesIn_concat, same]
    simp [BarAction.position, BarAction.tradesTaken, bought]
  · rw [action, BarAction.intents, heldBy_silent, entriesIn_concat]
    exact ⟨tracked, rfl⟩

end Style

/-! ### Days after other days -/

theorem map_fst_dayRecord {σ : Type} (machine : EventMachine Domain.Bar σ (List Intent))
    (bars : List Domain.Bar) (symbol : String) (d : ℤ) :
    (dayRecord (machine.calls bars) symbol d).map Prod.fst =
      (bars.filter (fun bar => bar.symbol = symbol)).filter (fun bar => barDate bar = d) := by
  conv_rhs => rw [← machine.map_fst_calls bars, List.filter_map, List.filter_map]
  rfl

theorem answered_day {σ : Type} {machine : EventMachine Domain.Bar σ (List Intent)}
    {current : σ → Option ℤ} {Tracks : σ → List (Domain.Bar × List Intent) → Prop}
    {answerTo : List (Domain.Bar × List Intent) → Domain.Bar → List Intent}
    (answering : DayRecords.Answering machine barDate current Tracks answerTo)
    {bars : List Domain.Bar}
    (ordered : bars.Pairwise (fun earlier later => earlier.timestamp ≤ later.timestamp))
    (symbol : String) (d : ℤ) :
    DayRecords.Answered answerTo
      (dayRecord ((machine.keyed Domain.Bar.symbol).calls bars) symbol d) := by
  rcases shown_dayRecord answering.shown ordered symbol d with none_ | ⟨state, shown⟩
  · rw [none_]
    exact DayRecords.answered_nil answerTo
  · exact shown.2

theorem answered_dayRecord {σ γ : Type} {machine : EventMachine Domain.Bar σ (List Intent)}
    {current : σ → Option ℤ} {context : List Domain.Bar → γ}
    {Tracks : γ → σ → List (Domain.Bar × List Intent) → Prop}
    {answerTo : γ → List (Domain.Bar × List Intent) → Domain.Bar → List Intent}
    (answering : DayRecords.AnsweringAfter machine barDate current context Tracks answerTo)
    {bars : List Domain.Bar}
    (ordered : bars.Pairwise (fun earlier later => earlier.timestamp ≤ later.timestamp))
    (symbol : String) (d : ℤ) :
    DayRecords.Answered
      (answerTo (context (DayRecords.before barDate d
        (bars.filter (fun bar => bar.symbol = symbol)))))
      (dayRecord ((machine.keyed Domain.Bar.symbol).calls bars) symbol d) := by
  have days : (bars.filter (fun bar => bar.symbol = symbol)).Pairwise
      (fun earlier later => barDate earlier ≤ barDate later) :=
    (ordered.filter _).imp (fun before => Int.ediv_le_ediv (by decide) before)
  rw [dayRecord, EventMachine.filter_calls_keyed]
  exact answering.answered days d

end TradingEngine.Intraday
