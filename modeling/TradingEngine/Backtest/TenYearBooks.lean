/-
The books of the ten-year simulator.

A day closes the active trades that exit on it before it opens new ones, so a trade
bought on the date of its exit is never closed.  The cash books balance in any case.
-/

import Mathlib.Algebra.BigOperators.Group.List.Basic
import Mathlib.Tactic.Ring
import TradingEngine.Backtest.TenYearSimulation

namespace TradingEngine.TenYearSimulation

/-! ### The run with its closed trades -/

structure Books where
  state : SimState
  closedTrades : List ActiveTrade

namespace Books

def start : Books :=
  { state :=
      { freeCash := totalAccountCapital
        activePortfolio := []
        dailyEquity := [] }
    closedTrades := [] }

def realizedPnl (books : Books) : ℚ :=
  (books.closedTrades.map ActiveTrade.pnl).sum

def day (validTrades : List SimTrade) (books : Books) (currentDate : Date) : Books :=
  { state := simulateDay validTrades books.state currentDate
    closedTrades := books.closedTrades ++
      books.state.activePortfolio.filter
        (fun active => active.trade.exitDate = currentDate) }

def after (validTrades : List SimTrade) (processed : List Date) : Books :=
  processed.foldl (day validTrades) start

end Books

variable {validTrades : List SimTrade}

@[simp] theorem Books.after_append (processed : List Date) (date : Date) :
    Books.after validTrades (processed ++ [date]) =
      (Books.after validTrades processed).day validTrades date := by
  unfold Books.after
  rw [List.foldl_append]
  rfl

theorem Books.after_dates :
    (Books.after validTrades (dates validTrades)).state = runSimulation validTrades := by
  unfold runSimulation
  generalize dates validTrades = all
  induction all using List.reverseRecOn with
  | nil => rfl
  | append_singleton processed date ih =>
      rw [Books.after_append, List.foldl_append, ← ih]
      rfl

/-! ### The cash books -/

/-- Free cash and the capital in active trades. -/
def SimState.total (state : SimState) : ℚ :=
  state.freeCash + (state.activePortfolio.map ActiveTrade.locked).sum

/-- Nothing but realised profit enters or leaves the account. -/
def Books.Balanced (books : Books) : Prop :=
  books.state.total = totalAccountCapital + books.realizedPnl

theorem total_exitTrades (state : SimState) (date : Date) :
    (exitTrades date state).total =
      state.total + ((state.activePortfolio.filter
        (fun active => active.trade.exitDate = date)).map ActiveTrade.pnl).sum := by
  have split := List.sum_map_filter_add_sum_map_filter_not
    (fun active : ActiveTrade => active.trade.exitDate = date) ActiveTrade.locked
    state.activePortfolio
  unfold exitTrades SimState.total
  dsimp only
  rw [List.sum_map_add, ← split]
  ring

theorem total_enterTrades (validTrades : List SimTrade) (state : SimState) (date : Date) :
    (enterTrades date validTrades state).total = state.total := by
  unfold enterTrades SimState.total
  dsimp only
  rw [List.map_append, List.sum_append]
  ring

theorem Books.Balanced.day {books : Books} (balanced : books.Balanced) (date : Date) :
    (books.day validTrades date).Balanced := by
  have entered := total_enterTrades validTrades (exitTrades date books.state) date
  unfold Books.Balanced Books.realizedPnl at *
  change (enterTrades date validTrades (exitTrades date books.state)).total = _
  rw [entered, total_exitTrades, balanced]
  unfold Books.day
  rw [List.map_append, List.sum_append, add_assoc]

theorem Books.balanced_after (processed : List Date) :
    (Books.after validTrades processed).Balanced := by
  induction processed using List.reverseRecOn with
  | nil => exact rfl
  | append_singleton processed date ih =>
      rw [Books.after_append]
      exact ih.day date

/-! ### The active trades -/

def bought (validTrades : List SimTrade) (state : SimState) (date : Date) : List ActiveTrade :=
  opened (exitTrades date state).activePortfolio
    (validTrades.filter (fun trade => trade.entryDate = date)) (exitTrades date state).freeCash

theorem activePortfolio_day (books : Books) (date : Date) :
    (books.day validTrades date).state.activePortfolio =
      books.state.activePortfolio.filter (fun active => active.trade.exitDate ≠ date) ++
        bought validTrades books.state date :=
  rfl

theorem trade_mem_of_mem_bought {state : SimState} {date : Date} {active : ActiveTrade}
    (member : active ∈ bought validTrades state date) :
    active.trade ∈ validTrades ∧ active.trade.entryDate = date := by
  unfold bought opened at member
  split_ifs at member
  · cases member
  · obtain ⟨trade, chosen, rfl⟩ := List.mem_map.mp member
    have signal : trade ∈ ranked (validTrades.filter (fun trade => trade.entryDate = date)) :=
      (DisjointSelection.keepDisjoint_sublist _ _ _).subset (List.mem_of_mem_take chosen)
    have listed := List.mem_filter.mp ((List.mem_insertionSort _).mp signal)
    exact ⟨listed.1, of_decide_eq_true listed.2⟩

theorem trade_mem_of_active {processed : List Date} {active : ActiveTrade}
    (member : active ∈ (Books.after validTrades processed).state.activePortfolio) :
    active.trade ∈ validTrades := by
  induction processed using List.reverseRecOn with
  | nil => cases member
  | append_singleton processed date ih =>
      rw [Books.after_append, activePortfolio_day] at member
      rcases List.mem_append.mp member with old | new
      · exact ih (List.mem_filter.mp old).1
      · exact (trade_mem_of_mem_bought new).1

theorem dates_pairwise (validTrades : List SimTrade) :
    (dates validTrades).Pairwise (fun earlier later => earlier < later) := by
  have sorted : (dates validTrades).Pairwise (fun earlier later => earlier ≤ later) :=
    List.pairwise_insertionSort _ _
  have distinct : (dates validTrades).Nodup :=
    (List.perm_insertionSort _ _).nodup_iff.mpr (List.nodup_dedup _)
  exact (sorted.and distinct).imp (fun both => lt_of_le_of_ne both.1 both.2)

theorem exitDate_mem_dates {trade : SimTrade} (member : trade ∈ validTrades) :
    trade.exitDate ∈ dates validTrades := by
  unfold dates
  rw [List.mem_insertionSort, List.mem_dedup]
  exact List.mem_append_right _ (List.mem_map_of_mem member)

/-- After a date, no active trade should have left by then, and the books balance. -/
def BooksHold (books : Books) (date : Date) : Prop :=
  (∀ active ∈ books.state.activePortfolio, date < active.trade.exitDate) ∧ books.Balanced

/-- No trade is bought on the date of its exit. -/
def NoSameDayBuy (validTrades : List SimTrade) (state : SimState) (date : Date) : Prop :=
  ∀ active ∈ bought validTrades state date, active.trade.exitDate ≠ date

/-- One date: the trades that stay leave later, and so do new ones but those bought on
the date of their exit. -/
theorem active_day_iff {processed rest : List Date} {date : Date}
    (ordered : ∀ trade ∈ validTrades, trade.entryDate ≤ trade.exitDate)
    (split : dates validTrades = processed ++ date :: rest)
    (before : ∀ active ∈ (Books.after validTrades processed).state.activePortfolio,
      active.trade.exitDate ∉ processed) :
    (∀ active ∈ (Books.after validTrades (processed ++ [date])).state.activePortfolio,
        date < active.trade.exitDate) ↔
      NoSameDayBuy validTrades (Books.after validTrades processed).state date := by
  rw [Books.after_append, activePortfolio_day]
  constructor
  · intro later active member
    exact ne_of_gt (later active (List.mem_append_right _ member))
  · intro noSameDay active member
    rcases List.mem_append.mp member with old | new
    · obtain ⟨held, other⟩ := List.mem_filter.mp old
      have listed := exitDate_mem_dates (trade_mem_of_active held)
      rw [split] at listed
      have upcoming := (List.mem_append.mp listed).resolve_left (before active held)
      have sorted := dates_pairwise validTrades
      rw [split] at sorted
      have later := (List.mem_cons.mp upcoming).resolve_left (of_decide_eq_true other)
      exact (List.pairwise_cons.mp (List.pairwise_append.mp sorted).2.1).1 _ later
    · obtain ⟨listed, entered⟩ := trade_mem_of_mem_bought new
      have reached := ordered active.trade listed
      rw [entered] at reached
      exact lt_of_le_of_ne reached (Ne.symm (noSameDay active new))

private theorem exitDate_notMem_of_later {processed rest : List Date} {date : Date}
    (split : dates validTrades = processed ++ date :: rest) {active : ActiveTrade}
    (later : date < active.trade.exitDate) : active.trade.exitDate ∉ processed ++ [date] := by
  intro member
  have sorted := dates_pairwise validTrades
  rw [split] at sorted
  rcases List.mem_append.mp member with earlier | last
  · have before := (List.pairwise_append.mp sorted).2.2 _ earlier date List.mem_cons_self
    exact lt_asymm before later
  · rw [List.mem_singleton.mp last] at later
    exact lt_irrefl date later

/-- What holds of every date that the run processes. -/
def AtEachDate (validTrades : List SimTrade) (holds : List Date → Date → Prop) : Prop :=
  ∀ processed date rest, dates validTrades = processed ++ date :: rest → holds processed date

/-- The simulator closes what it takes exactly when it buys nothing on the date of its
exit. -/
theorem booksHold_iff {validTrades : List SimTrade}
    (ordered : ∀ trade ∈ validTrades, trade.entryDate ≤ trade.exitDate) :
    AtEachDate validTrades (fun processed date =>
        BooksHold (Books.after validTrades (processed ++ [date])) date) ↔
      AtEachDate validTrades (fun processed date =>
        NoSameDayBuy validTrades (Books.after validTrades processed).state date) := by
  constructor
  · intro hold processed date rest split
    refine (active_day_iff ordered split ?_).mp (hold processed date rest split).1
    intro active member
    rcases List.eq_nil_or_concat' processed with rfl | ⟨front, last, rfl⟩
    · cases member
    · rw [List.append_assoc] at split
      exact exitDate_notMem_of_later split ((hold front last _ split).1 active member)
  · intro noSameDay processed
    induction processed using List.reverseRecOn with
    | nil =>
        intro date rest split
        refine ⟨(active_day_iff ordered split ?_).mpr (noSameDay [] date rest split),
          Books.balanced_after _⟩
        intro active member
        cases member
    | append_singleton front last ih =>
        intro date rest split
        refine ⟨(active_day_iff ordered split ?_).mpr (noSameDay _ date rest split),
          Books.balanced_after _⟩
        intro active member
        rw [List.append_assoc] at split
        exact exitDate_notMem_of_later split ((ih last _ split).1 active member)

/-! ### A trade of one day -/

/-- A squeeze entry that its stop closes on the bar of the fill. -/
def sameDayTrade : SimTrade :=
  { strategy := .bbSqueeze
    symbol := Symbol.single "INFY"
    entryDate := 0
    exitDate := 0
    entryPrice := 100
    exitPrice := 95
    entryPrice_pos := hundred_pos }

theorem sameDayTrade_booksHold_iff :
    AtEachDate [sameDayTrade] (fun processed date =>
        BooksHold (Books.after [sameDayTrade] (processed ++ [date])) date) ↔
      AtEachDate [sameDayTrade] (fun processed date =>
        NoSameDayBuy [sameDayTrade] (Books.after [sameDayTrade] processed).state date) :=
  booksHold_iff (by decide)

/-- The run ends with the trade active and its capital locked. -/
theorem sameDayTrade_not_booksHold :
    (∀ trade ∈ [sameDayTrade], trade.entryDate ≤ trade.exitDate) ∧
      (runSimulation [sameDayTrade]).activePortfolio =
        [{ trade := sameDayTrade, actualQty := 2000 }] ∧
      ¬ AtEachDate [sameDayTrade] (fun processed date =>
        BooksHold (Books.after [sameDayTrade] (processed ++ [date])) date) := by
  have stuck : (runSimulation [sameDayTrade]).activePortfolio =
      [{ trade := sameDayTrade, actualQty := 2000 }] := by
    decide +kernel
  refine ⟨by decide, stuck, ?_⟩
  intro hold
  have last := (hold [] 0 [] rfl).1 { trade := sameDayTrade, actualQty := 2000 }
  have reached : (Books.after [sameDayTrade] ([] ++ [0])).state.activePortfolio =
      [{ trade := sameDayTrade, actualQty := 2000 }] :=
    stuck
  rw [reached] at last
  exact absurd (last List.mem_cons_self) (lt_irrefl _)

end TradingEngine.TenYearSimulation
