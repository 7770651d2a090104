/-
Replays of a frame that grows by one bar a day.

A position that a replay reports as entered today is followed through the replays
of all later frames.  Its fill settles at the next open, and from then on every
replay holds the same position up to the first bar whose exit test fires.  That
bar reports the exit on its own day, although the fill of the exit moves to the
next open as well.
-/

import TradingEngine.General.GrowingHistory
import TradingEngine.Scripts.AppendStability

namespace TradingEngine

variable {K : Type} [Field K] [LinearOrder K]

def Signal.isExit : Signal → Bool
  | .exit _ => true
  | .entry => false

def Action.isExit (action : Action K) : Bool :=
  action.signal.isExit

variable [FloorRing K]

namespace ReplayRules

variable {I : Type}

/-! ### One action a bar -/

/-- A bar does nothing, opens a position when there is none, or closes the one that
is held under its own date or the date of its fill. -/
inductive SingleAction (bar : Bar K) (fill : K × Timestamp) :
    Option (Position K) → List (Action K) → Prop where
  | nothing (position : Option (Position K)) : SingleAction bar fill position []
  | enter : SingleAction bar fill none [.enter]
  | close (held : Position K) (price : K) (date : Timestamp) (reason : ExitReason)
      (dated : date = fill.2 ∨ date = bar.timestamp) :
      SingleAction bar fill (some held) [.close price date reason]

def SingleActions (rules : ReplayRules I K) : Prop :=
  ∀ (df : Frame K) (i : ℕ) (bar : Bar K), df.bars[i]? = some bar →
    SingleAction bar (df.fill i bar) (rules.stateAfter df i).book.position
      (rules.actionsAt df i)

variable {rules : ReplayRules I K}

theorem book_succ {df : Frame K} {i : ℕ} {bar : Bar K} (found : df.bars[i]? = some bar) :
    (rules.stateAfter df (i + 1)).book =
      (rules.stateAfter df i).book.applyAll df.todayDate rules.terms (df.fill i bar)
        bar.timestamp.date (rules.actionsAt df i) := by
  rw [stateAfter_succ, stepAt_of_getElem? found, actionsAt_of_getElem? found]

theorem book_succ_of_nothing {df : Frame K} {i : ℕ} (inside : i < df.length)
    (nothing : rules.actionsAt df i = []) :
    (rules.stateAfter df (i + 1)).book = (rules.stateAfter df i).book := by
  have found : df.bars[i]? = some df.bars[i] := List.getElem?_eq_getElem inside
  rw [book_succ found, nothing]
  rfl

theorem todayEntry_of_early (single : rules.SingleActions) {df : Frame K}
    (daily : df.Daily) {count : ℕ} (early : count < df.length) :
    (rules.stateAfter df count).book.todayEntry = none := by
  induction count with
  | zero => rfl
  | succ i ih =>
      have inside : i < df.length := Nat.lt_of_succ_lt early
      have found : df.bars[i]? = some df.bars[i] := List.getElem?_eq_getElem inside
      have before := ih inside
      have action := single df i df.bars[i] found
      rw [book_succ found]
      generalize (rules.stateAfter df i).book.position = position at action
      generalize rules.actionsAt df i = actions at action
      cases action with
      | nothing => exact before
      | enter =>
          have past := daily.date_lt_today early found
          change (if df.bars[i].timestamp.date = df.todayDate then _ else _) = _
          rw [if_neg (ne_of_lt past)]
          exact before
      | close held price date reason dated =>
          exact (Book.closeTrade_todayEntry _ _ _ _ _).trans before

theorem todayClosed_of_early (single : rules.SingleActions) {df : Frame K}
    (daily : df.Daily) {count : ℕ} (early : count + 1 < df.length) :
    (rules.stateAfter df count).book.todayClosed = [] := by
  induction count with
  | zero => rfl
  | succ i ih =>
      have inside : i < df.length := Nat.lt_of_succ_lt (Nat.lt_of_succ_lt early)
      have found : df.bars[i]? = some df.bars[i] := List.getElem?_eq_getElem inside
      have before := ih (Nat.lt_of_succ_lt early)
      have action := single df i df.bars[i] found
      rw [book_succ found]
      generalize (rules.stateAfter df i).book.position = position at action
      generalize rules.actionsAt df i = actions at action
      cases action with
      | nothing => exact before
      | enter => exact before
      | close held price date reason dated =>
          have past : date.date < df.todayDate := by
            rcases dated with rfl | rfl
            · exact daily.fillDate_lt_today early df.bars[i]
            · exact daily.date_lt_today (Nat.lt_of_succ_lt early) found
          exact (Book.closeTrade_todayClosed_of_past past _ _ _).trans before

/-! ### The exit rule -/

/-- Whether the exit rule fires at bar `i` for the position that a signal at bar `s`
has opened. -/
def exitDueAt (rules : ReplayRules I K) (df : Frame K) (s i : ℕ) : Bool :=
  match df.bars[s]?, df.bars[i]? with
  | some signalBar, some bar =>
      (rules.actions bar (df.fill i bar)
        (rules.observe df i bar (rules.stateAfter df i).indicators)
        (some (rules.terms.positionAt (df.fill s signalBar)))).any Action.isExit
  | _, _ => false

def exitDue (rules : ReplayRules I K) (df : Frame K) (s : ℕ) : Bool :=
  rules.exitDueAt df s (df.length - 1)

theorem exitDueAt_of_getElem? {df : Frame K} {s i : ℕ} {signalBar bar : Bar K}
    (foundSignal : df.bars[s]? = some signalBar) (found : df.bars[i]? = some bar) :
    rules.exitDueAt df s i =
      (rules.actions bar (df.fill i bar)
        (rules.observe df i bar (rules.stateAfter df i).indicators)
        (some (rules.terms.positionAt (df.fill s signalBar)))).any Action.isExit := by
  unfold exitDueAt
  rw [foundSignal, found]

omit [Field K] [LinearOrder K] [FloorRing K] in
private theorem any_isExit_eq_of_signals {left right : List (Action K)}
    (same : left.map Action.signal = right.map Action.signal) :
    left.any Action.isExit = right.any Action.isExit := by
  have mapped := congrArg (fun signals => signals.any Signal.isExit) same
  simp only [List.any_map] at mapped
  exact mapped

theorem exitDueAt_append (causal : rules.Causal) (df : Frame K) (later : List (Bar K))
    {s i : ℕ} (order : s < i) (inside : i < df.length) :
    rules.exitDueAt (df.append later) s i = rules.exitDueAt df s i := by
  have insideSignal : s < df.length := Nat.lt_trans order inside
  have foundSignal : df.bars[s]? = some df.bars[s] := List.getElem?_eq_getElem insideSignal
  have found : df.bars[i]? = some df.bars[i] := List.getElem?_eq_getElem inside
  have agree := stateAfter_agree causal df later inside
  rw [exitDueAt_of_getElem? foundSignal found,
    exitDueAt_of_getElem?
      ((df.getElem?_append later insideSignal).trans foundSignal)
      ((df.getElem?_append later inside).trans found),
    causal.observe_append df later i _ _ inside, agree.1,
    df.fill_append later _ (Nat.lt_of_le_of_lt order inside)]
  exact any_isExit_eq_of_signals (causal.signals_fill _ _ _ _ _)

/-! ### Following a position -/

def EntersAt (rules : ReplayRules I K) (df : Frame K) (s : ℕ) : Prop :=
  rules.actionsAt df s = [.enter]

theorem entersAt_append (causal : rules.Causal) (df : Frame K) (later : List (Bar K))
    {s : ℕ} (inside : s < df.length) (enters : rules.EntersAt df s) :
    rules.EntersAt (df.append later) s := by
  have same := signalsAt_append causal df later inside
  unfold signalsAt at same
  rw [enters] at same
  obtain ⟨action, actionEq, signalEq⟩ := List.map_eq_singleton_iff.mp same
  unfold EntersAt
  rw [actionEq]
  cases action with
  | close price date reason => contradiction
  | enter => rfl

theorem entersAt_of_todayEntry (single : rules.SingleActions) {df : Frame K}
    (daily : df.Daily) {maxHold : ℤ}
    (reported : (rules.replay df maxHold).todayEntry ≠ none) :
    rules.EntersAt df (df.length - 1) := by
  have found := df.getElem?_last
  have nothingBefore := todayEntry_of_early single daily (Nat.sub_one_lt_of_lt df.length_pos)
  have action := single df (df.length - 1) df.lastBar found
  have whole : df.length - 1 + 1 = df.length := Nat.sub_add_cancel df.length_pos
  change (rules.stateAfter df df.length).book.todayEntry ≠ none at reported
  rw [← whole, book_succ found] at reported
  unfold EntersAt
  generalize (rules.stateAfter df (df.length - 1)).book.position = position at action
  generalize rules.actionsAt df (df.length - 1) = actions at action reported
  cases action with
  | nothing => exact absurd nothingBefore reported
  | enter => rfl
  | close held price date reason dated =>
      exact absurd ((Book.closeTrade_todayEntry _ _ _ _ _).trans nothingBefore) reported

section Held

variable {df : Frame K} {s : ℕ} {signalBar : Bar K}

theorem actionsAt_of_held_of_not_due (single : rules.SingleActions)
    (foundSignal : df.bars[s]? = some signalBar) {i : ℕ} (inside : i < df.length)
    (held : (rules.stateAfter df i).book.position =
      some (rules.terms.positionAt (df.fill s signalBar)))
    (silent : rules.exitDueAt df s i = false) : rules.actionsAt df i = [] := by
  have found : df.bars[i]? = some df.bars[i] := List.getElem?_eq_getElem inside
  have action := single df i df.bars[i] found
  have noExit : (rules.actionsAt df i).any Action.isExit = false := by
    rw [actionsAt_of_getElem? found, decide, held,
      ← exitDueAt_of_getElem? foundSignal found]
    exact silent
  rw [held] at action
  generalize rules.actionsAt df i = actions at action noExit
  cases action with
  | nothing => rfl
  | close held price date reason dated => contradiction

theorem actionsAt_of_held_of_due (single : rules.SingleActions)
    (foundSignal : df.bars[s]? = some signalBar) {i : ℕ} {bar : Bar K}
    (found : df.bars[i]? = some bar)
    (held : (rules.stateAfter df i).book.position =
      some (rules.terms.positionAt (df.fill s signalBar)))
    (due : rules.exitDueAt df s i = true) :
    ∃ price date reason, rules.actionsAt df i = [.close price date reason] ∧
      (date = (df.fill i bar).2 ∨ date = bar.timestamp) := by
  have action := single df i bar found
  have exits : (rules.actionsAt df i).any Action.isExit = true := by
    rw [actionsAt_of_getElem? found, decide, held,
      ← exitDueAt_of_getElem? foundSignal found]
    exact due
  rw [held] at action
  generalize rules.actionsAt df i = actions at action exits
  cases action with
  | nothing => contradiction
  | close held price date reason dated => exact ⟨price, date, reason, rfl, dated⟩

/-- From the bar after the signal up to the first bar whose exit test fires the replay
holds the position of that signal. -/
theorem held_of_not_due (single : rules.SingleActions)
    (foundSignal : df.bars[s]? = some signalBar) (enters : rules.EntersAt df s)
    {count : ℕ} (after : s < count) (inside : count ≤ df.length)
    (silent : ∀ i, s < i → i < count → rules.exitDueAt df s i = false) :
    (rules.stateAfter df count).book.position =
      some (rules.terms.positionAt (df.fill s signalBar)) := by
  induction count with
  | zero => contradiction
  | succ i ih =>
      rcases Nat.lt_or_eq_of_le (Nat.le_of_lt_succ after) with later | same
      · have held := ih later (Nat.le_of_succ_le inside)
          (fun j low high => silent j low (Nat.lt_succ_of_lt high))
        have nothing := actionsAt_of_held_of_not_due single foundSignal inside held
          (silent i later (Nat.lt_succ_self i))
        rw [book_succ_of_nothing inside nothing]
        exact held
      · subst same
        rw [book_succ foundSignal, enters]
        rfl

theorem todayClosed_of_not_due (single : rules.SingleActions) (daily : df.Daily)
    (foundSignal : df.bars[s]? = some signalBar) (enters : rules.EntersAt df s)
    {last : ℕ} (lengthEq : df.length = last + 1) (after : s < last)
    (silent : ∀ i, s < i → i < last → rules.exitDueAt df s i = false) :
    (rules.stateAfter df last).book.todayClosed = [] := by
  obtain ⟨i, rfl⟩ : ∃ i, last = i + 1 :=
    Nat.exists_eq_succ_of_ne_zero (Nat.ne_zero_of_lt after)
  have inside : i < df.length := by omega
  have early : i + 1 < df.length := by omega
  have before := todayClosed_of_early single daily early
  rcases Nat.lt_or_eq_of_le (Nat.le_of_lt_succ after) with later | same
  · have held := held_of_not_due single foundSignal enters later (Nat.le_of_lt inside)
      (fun j low high => silent j low (Nat.lt_succ_of_lt high))
    have nothing := actionsAt_of_held_of_not_due single foundSignal inside held
      (silent i later (Nat.lt_succ_self i))
    rw [book_succ_of_nothing inside nothing]
    exact before
  · subst same
    rw [book_succ foundSignal, enters]
    exact before

/-- A signal since the paper start is filled after it, so its trade is recorded. -/
theorem positionAt_isLive_of_settled (daily : df.Daily) (foundSignal : df.bars[s]? = some signalBar)
    (settled : s + 1 < df.length) (started : paperTradingStart ≤ signalBar.timestamp.date) :
    (rules.terms.positionAt (df.fill s signalBar)).isLive = true := by
  have next : df.bars[s + 1]? = some df.bars[s + 1] := List.getElem?_eq_getElem settled
  have order := daily.date_lt (Nat.lt_succ_self s) foundSignal next
  have filled : (df.fill s signalBar).2 = df.bars[s + 1].timestamp := by
    unfold Frame.fill
    rw [next]
  apply decide_eq_true
  change paperTradingStart ≤ (df.fill s signalBar).2.date
  rw [filled]
  exact le_trans started (le_of_lt order)

end Held

/-- What a strategy reports on a later day about a position whose signal was bar `s`,
as long as the exit rule has not fired before. -/
structure Followed (rules : ReplayRules I K) (df : Frame K) (maxHold : ℤ) (s : ℕ) :
    Prop where
  exits : rules.exitDue df s = true → (rules.replay df maxHold).todayClosed ≠ []
  holds : rules.exitDue df s = false →
    (rules.replay df maxHold).todayClosed = [] ∧
      (rules.replay df maxHold).todayEntry = none ∧
        (rules.replay df maxHold).position ≠ none

theorem followed_of_entersAt (single : rules.SingleActions) {df : Frame K}
    (daily : df.Daily) {s : ℕ} (enters : rules.EntersAt df s) (settled : s + 1 < df.length)
    (started : ∀ bar, df.bars[s]? = some bar → paperTradingStart ≤ bar.timestamp.date)
    (silent : ∀ i, s < i → i + 1 < df.length → rules.exitDueAt df s i = false)
    (maxHold : ℤ) : rules.Followed df maxHold s := by
  obtain ⟨last, lengthEq⟩ : ∃ last, df.length = last + 1 :=
    Nat.exists_eq_succ_of_ne_zero (Nat.ne_zero_of_lt settled)
  have after : s < last := by omega
  have inside : last < df.length := by omega
  have lastEq : df.length - 1 = last := by omega
  have found : df.bars[last]? = some df.lastBar := lastEq ▸ df.getElem?_last
  have fillLast : df.fill last df.lastBar = (df.lastBar.close, df.lastBar.timestamp) :=
    lastEq ▸ df.fill_last df.lastBar
  obtain ⟨signalBar, foundSignal⟩ : ∃ signalBar, df.bars[s]? = some signalBar :=
    ⟨_, List.getElem?_eq_getElem (Nat.lt_of_succ_lt settled)⟩
  have silentBefore : ∀ i, s < i → i < last → rules.exitDueAt df s i = false :=
    fun i low high => silent i low (by omega)
  have held := held_of_not_due single foundSignal enters after (Nat.le_of_lt inside) silentBefore
  have closedBefore :=
    todayClosed_of_not_due single daily foundSignal enters lengthEq after silentBefore
  have entryBefore := todayEntry_of_early single daily inside
  constructor
  · intro due
    rw [exitDue, lastEq] at due
    obtain ⟨price, date, reason, closes, dated⟩ :=
      actionsAt_of_held_of_due single foundSignal found held due
    have today : date.date = df.todayDate := by
      rw [fillLast] at dated
      rcases dated with rfl | rfl <;> rfl
    have live : (rules.terms.positionAt (df.fill s signalBar)).isLive = true :=
      positionAt_isLive_of_settled daily foundSignal settled (started signalBar foundSignal)
    change (rules.stateAfter df df.length).book.todayClosed ≠ []
    rw [lengthEq, book_succ found, closes]
    change (Book.closeTrade _ _ price date reason).todayClosed ≠ []
    rw [Book.closeTrade_of_held held, if_pos live]
    change (if date.date = df.todayDate then _ else _) ≠ []
    rw [if_pos today]
    exact List.append_ne_nil_of_right_ne_nil _ (List.cons_ne_nil _ _)
  · intro silentToday
    rw [exitDue, lastEq] at silentToday
    have nothing := actionsAt_of_held_of_not_due single foundSignal inside held silentToday
    have same : (rules.stateAfter df df.length).book = (rules.stateAfter df last).book := by
      rw [lengthEq]
      exact book_succ_of_nothing inside nothing
    refine ⟨?_, ?_, ?_⟩
    · change (rules.stateAfter df df.length).book.todayClosed = []
      rw [same, closedBefore]
    · change (rules.stateAfter df df.length).book.todayEntry = none
      rw [same, entryBefore]
    · change (rules.stateAfter df df.length).book.position.map Position.report ≠ none
      rw [same, held]
      exact Option.some_ne_none _

theorem followed_of_todayEntry (causal : rules.Causal) (single : rules.SingleActions)
    (df : Frame K) {later : List (Bar K)} (daily : (df.append later).Daily)
    (started : paperTradingStart ≤ df.todayDate) (grown : later ≠ []) (maxHold : ℤ)
    (reported : (rules.replay df maxHold).todayEntry ≠ none)
    (silent : ∀ i, df.length ≤ i → i + 1 < (df.append later).length →
      rules.exitDueAt (df.append later) (df.length - 1) i = false) :
    rules.Followed (df.append later) maxHold (df.length - 1) := by
  have positive := df.length_pos
  have longer := List.length_pos_of_ne_nil grown
  have inside : df.length - 1 < df.length := Nat.sub_one_lt_of_lt positive
  have enters := entersAt_of_todayEntry single daily.of_append reported
  apply followed_of_entersAt single daily (entersAt_append causal df later inside enters)
  · rw [Frame.length_append]
    omega
  · intro bar found
    rw [df.getElem?_append later inside, df.getElem?_last] at found
    cases found
    exact started
  · intro i low high
    exact silent i (by omega) high

/-! ### One frame a day -/

/-- The frames of consecutive days: every day adds one bar, and the bars before stay. -/
structure DailyFrames (frames : ℕ → Frame K) : Prop where
  grows : GrowingHistory.Grows (fun day => (frames day).bars)
  daily : ∀ day, (frames day).Daily
  started : ∀ day, paperTradingStart ≤ (frames day).todayDate

omit [FloorRing K] in
theorem DailyFrames.exists_append {frames : ℕ → Frame K} (history : DailyFrames frames)
    {earlier day : ℕ} (order : earlier < day) :
    ∃ later, later ≠ [] ∧ frames day = (frames earlier).append later := by
  obtain ⟨later, grown, same⟩ := history.grows.exists_later_of_lt order
  exact ⟨later, grown, Frame.ext same⟩

theorem exitDueAt_of_day (causal : rules.Causal) {frames : ℕ → Frame K}
    (history : DailyFrames frames) {s i between day : ℕ} (order : between < day)
    (after : s < i) (lengthEq : (frames between).length = i + 1) :
    rules.exitDueAt (frames day) s i = rules.exitDue (frames between) s := by
  obtain ⟨later, _, same⟩ := history.exists_append order
  have inside : i < (frames between).length := by omega
  have lastEq : i = (frames between).length - 1 := by omega
  rw [same, exitDueAt_append causal _ later after inside, exitDue, ← lastEq]

theorem followed_on_later_day (causal : rules.Causal) (single : rules.SingleActions)
    {frames : ℕ → Frame K} (history : DailyFrames frames) {signalDay day : ℕ}
    (order : signalDay < day) (maxHold : ℤ)
    (reported : (rules.replay (frames signalDay) maxHold).todayEntry ≠ none)
    (silent : ∀ between, signalDay < between → between < day →
      rules.exitDue (frames between) ((frames signalDay).length - 1) = false) :
    rules.Followed (frames day) maxHold ((frames signalDay).length - 1) := by
  obtain ⟨later, grown, same⟩ := history.exists_append order
  have positive := (frames signalDay).length_pos
  have daily := history.daily day
  have silentAt : ∀ i, (frames signalDay).length ≤ i → i + 1 < (frames day).length →
      rules.exitDueAt (frames day) ((frames signalDay).length - 1) i = false := by
    intro i low high
    obtain ⟨between, after, before, lengthEq⟩ :=
      history.grows.exists_day (Nat.le_of_lt order) low high
    rw [exitDueAt_of_day causal history before (by omega) lengthEq]
    exact silent between after before
  rw [same] at daily silentAt ⊢
  exact followed_of_todayEntry causal single _ daily (history.started signalDay) grown maxHold
    reported silentAt

end ReplayRules

/-! ### The three strategies -/

theorem MAPullbackTrader.Params.rules_singleActions (params : MAPullbackTrader.Params K) :
    params.rules.SingleActions := by
  intro df i bar found
  rw [ReplayRules.actionsAt_of_getElem? found]
  generalize params.rules.stateAfter df i = state
  change ReplayRules.SingleAction _ _ _ (params.actions bar (df.fill i bar)
    (params.rules.observe df i bar state.indicators) state.book.position)
  generalize params.rules.observe df i bar state.indicators = indicators
  by_cases warmup : indicators.closeHistory.length < params.trendMaPeriod
  · rw [params.actions_of_warmup warmup]
    exact .nothing _
  · cases state.book.position with
    | none =>
        rw [params.actions_of_flat warmup]
        split
        · exact .enter
        · exact .nothing _
    | some held =>
        rw [params.actions_of_held warmup]
        cases params.exitReason bar held with
        | none => exact .nothing _
        | some reason => exact .close held _ _ reason (Or.inl rfl)

theorem BBSqueezeTrader.Params.rules_singleActions (sqrt : K → K)
    (params : BBSqueezeTrader.Params K) : (params.rules sqrt).SingleActions := by
  intro df i bar found
  rw [ReplayRules.actionsAt_of_getElem? found]
  generalize (params.rules sqrt).stateAfter df i = state
  change ReplayRules.SingleAction _ _ _ (params.actions bar (df.fill i bar)
    (params.readingAt sqrt df i) state.book.position)
  cases params.readingAt sqrt df i with
  | none => exact .nothing _
  | some reading =>
      cases state.book.position with
      | none =>
          change ReplayRules.SingleAction _ _ _ (if _ then _ else _)
          split
          · exact .enter
          · exact .nothing _
      | some held =>
          rw [params.actions_of_held]
          cases params.exitAt bar (df.fill i bar).1 reading held with
          | none => exact .nothing _
          | some exit => exact .close held _ _ exit.2 (Or.inr rfl)

namespace SupertrendTrader.Params

omit [FloorRing K] in
theorem newTrend_cases (bar : Bar K) (bands : Bands K) (prevTrend : Trend) :
    newTrend bar bands prevTrend = .bullish ∨ newTrend bar bands prevTrend = .bearish ∨
      newTrend bar bands prevTrend = prevTrend := by
  unfold newTrend
  split
  · exact Or.inl rfl
  · split
    · exact Or.inr (Or.inl rfl)
    · exact Or.inr (Or.inr rfl)

omit [FloorRing K] in
theorem observe_cases (params : SupertrendTrader.Params K) (df : Frame K) (i : ℕ)
    (bar : Bar K) (state : Indicators K) :
    ((params.observe df i bar state).flip = none ∧
        (params.observe df i bar state).trend = state.trend) ∨
      ∃ trend, (trend = .bullish ∨ trend = .bearish ∨ trend = state.trend) ∧
        (params.observe df i bar state).flip =
          some { prevTrend := state.trend, newTrend := trend } ∧
        (params.observe df i bar state).trend = trend := by
  dsimp only [observe]
  split
  · exact Or.inr ⟨_, newTrend_cases _ _ _, rfl, rfl⟩
  · exact Or.inl ⟨rfl, rfl⟩

/-- A position is held in a bullish trend only. -/
def BullishWhileHeld (state : LoopState (Indicators K) K) : Prop :=
  state.book.position ≠ none → state.indicators.trend = .bullish

omit [FloorRing K] in
/-- Then a held position rules out a bullish flip, so a bar that closes it does not
open the next one. -/
theorem singleAction_of_bullishWhileHeld (params : SupertrendTrader.Params K) (df : Frame K)
    (i : ℕ) (bar : Bar K) (fill : K × Timestamp) {state : LoopState (Indicators K) K}
    (bullish : BullishWhileHeld state) :
    ReplayRules.SingleAction bar fill state.book.position
      (params.actions bar fill (params.observe df i bar state.indicators)
        state.book.position) := by
  rcases params.observe_cases df i bar state.indicators with
    ⟨skipped, _⟩ | ⟨trend, _, ready, _⟩
  · rw [params.actions_of_skipped skipped]
    exact .nothing _
  · cases position : state.book.position with
    | none =>
        rw [params.actions_of_flat ready]
        split
        · exact .enter
        · exact .nothing _
    | some held =>
        have prevTrend := bullish (position ▸ Option.some_ne_none held)
        have noFlip : Flip.isBullish
            { prevTrend := state.indicators.trend, newTrend := trend } = false := by
          rw [prevTrend]
          simp [Flip.isBullish]
        rw [params.actions_of_held ready, noFlip]
        cases params.exitReason bar _ held with
        | none => exact .nothing _
        | some reason => exact .close held _ _ reason (Or.inl rfl)

theorem stepAt_bullishWhileHeld (params : SupertrendTrader.Params K) (df : Frame K) (i : ℕ)
    {state : LoopState (Indicators K) K} (bullish : BullishWhileHeld state) :
    BullishWhileHeld (params.rules.stepAt df i state) := by
  unfold ReplayRules.stepAt
  split
  · exact bullish
  · rename_i bar found
    intro held
    change (Book.applyAll _ _ _ _ state.book (params.actions bar (df.fill i bar)
      (params.observe df i bar state.indicators) state.book.position)).position ≠ none at held
    change (params.observe df i bar state.indicators).trend = .bullish
    rcases params.observe_cases df i bar state.indicators with
      ⟨skipped, kept⟩ | ⟨trend, from_, ready, set_⟩
    · rw [params.actions_of_skipped skipped] at held
      rw [kept]
      exact bullish held
    · rw [set_]
      cases position : state.book.position with
      | none =>
          rw [position, params.actions_of_flat ready] at held
          by_cases flips : Flip.isBullish
              { prevTrend := state.indicators.trend, newTrend := trend } = true
          · exact (of_decide_eq_true (Bool.and_eq_true_iff.mp flips).1)
          · rw [if_neg flips] at held
            exact absurd position held
      | some holding =>
          have prevTrend := bullish (position ▸ Option.some_ne_none holding)
          rw [position, params.actions_of_held ready] at held
          rcases from_ with rfl | rfl | rfl
          · rfl
          · have exits : params.exitReason bar
                { prevTrend := state.indicators.trend, newTrend := .bearish } holding =
                  some .bearishFlip := by
              rw [prevTrend]
              rfl
            rw [exits] at held
            exact absurd (Book.closeTrade_position _ _ _ _ _) held
          · exact prevTrend

theorem stateAfter_bullishWhileHeld (params : SupertrendTrader.Params K) (df : Frame K) (i : ℕ) :
    BullishWhileHeld (params.rules.stateAfter df i) := by
  unfold ReplayRules.stateAfter
  apply RangeLoop.loop_invariant _ _ (fun _ => BullishWhileHeld) i
  · exact fun held => absurd rfl held
  · exact fun j _state _ before => params.stepAt_bullishWhileHeld df j before

theorem rules_singleActions (params : SupertrendTrader.Params K) :
    params.rules.SingleActions := by
  intro df i bar found
  rw [ReplayRules.actionsAt_of_getElem? found]
  exact params.singleAction_of_bullishWhileHeld df i bar _
    (params.stateAfter_bullishWhileHeld df i)

end SupertrendTrader.Params

end TradingEngine
