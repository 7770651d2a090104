/-
Black Swan replays of a pair that grows by one row a day.

Entries and exits are booked at the close of the row that decides them, so only
the last row can report today's entry or today's exit.  A row that closes a
position may open the next one; the exit is reported all the same.
-/

import TradingEngine.General.GrowingHistory
import TradingEngine.Scripts.PaperTrader

namespace TradingEngine.PaperTrader

variable {K : Type} [Field K] [LinearOrder K]

/-! ### Rows of a day -/

def DailyRows (rows : List (PairRow K)) : Prop :=
  rows.Pairwise (fun earlier later => earlier.timestamp.date < later.timestamp.date)

theorem DailyRows.date_lt {rows : List (PairRow K)} (daily : DailyRows rows) {i j : ℕ}
    (order : i < j) {earlier later : PairRow K} (foundEarlier : rows[i]? = some earlier)
    (foundLater : rows[j]? = some later) : earlier.timestamp.date < later.timestamp.date := by
  obtain ⟨insideEarlier, rfl⟩ := List.getElem?_eq_some_iff.mp foundEarlier
  obtain ⟨insideLater, rfl⟩ := List.getElem?_eq_some_iff.mp foundLater
  exact List.pairwise_iff_getElem.mp daily i j insideEarlier insideLater order

private theorem getLast?_eq_of_length {rows : List (PairRow K)} {i : ℕ}
    (lengthEq : rows.length = i + 1) : rows.getLast? = rows[i]? := by
  rw [List.getLast?_eq_getElem?, lengthEq, Nat.add_sub_cancel]

theorem dailyRows_alignRows {dfA : Frame K} (daily : dfA.Daily) (dfB : Frame K) :
    DailyRows (alignRows dfA dfB) := by
  apply List.Pairwise.filterMap _ _ daily
  intro earlier later order rowEarlier madeEarlier rowLater madeLater
  obtain ⟨_, _, rfl⟩ := Option.map_eq_some_iff.mp madeEarlier
  obtain ⟨_, _, rfl⟩ := Option.map_eq_some_iff.mp madeLater
  exact order

theorem alignRows_append {dfA dfB : Frame K} {barA barB : Bar K}
    (dailyA : (dfA.append [barA]).Daily) (dailyB : (dfB.append [barB]).Daily)
    (session : barA.timestamp = barB.timestamp) :
    alignRows (dfA.append [barA]) (dfB.append [barB]) =
      alignRows dfA dfB ++
        [{ timestamp := barA.timestamp
           closeA := barA.close
           closeB := barB.close
           closeA_pos := barA.close_pos }] := by
  have orderA := (List.pairwise_append.mp dailyA).2.2
  have orderB := (List.pairwise_append.mp dailyB).2.2
  have unmatchedOld : dfB.bars.find? (fun bar => bar.timestamp = barA.timestamp) = none := by
    apply List.find?_eq_none.mpr
    intro bar member
    have order := orderB bar member barB (List.mem_singleton_self barB)
    rw [decide_eq_true_iff, session]
    exact fun same => ne_of_lt order (congrArg Timestamp.date same)
  have unmatchedNew : ∀ bar ∈ dfA.bars, ¬ barB.timestamp = bar.timestamp := by
    intro bar member same
    have order := orderA bar member barA (List.mem_singleton_self barA)
    rw [session, same] at order
    exact lt_irrefl _ order
  change (dfA.bars ++ [barA]).filterMap (fun bar =>
    ((dfB.bars ++ [barB]).find? (fun other => other.timestamp = bar.timestamp)).map _) = _
  rw [List.filterMap_append]
  congr 1
  · apply List.filterMap_congr
    intro bar member
    rw [List.find?_append, List.find?_singleton, if_neg (by simpa using unmatchedNew bar member),
      Option.or_none]
  · rw [List.filterMap_cons, List.find?_append, unmatchedOld, List.find?_singleton,
      if_pos (by simpa using session.symm)]
    rfl

theorem getLast?_alignRows {dfA dfB : Frame K}
    (session : dfA.lastBar.timestamp = dfB.lastBar.timestamp) :
    ∃ last, (alignRows dfA dfB).getLast? = some last ∧
      last.timestamp = dfA.lastBar.timestamp := by
  obtain ⟨partner, found⟩ : ∃ partner, dfB.bars.find?
      (fun bar => bar.timestamp = dfA.lastBar.timestamp) = some partner := by
    apply Option.ne_none_iff_exists'.mp
    intro missing
    have different := List.find?_eq_none.mp missing dfB.lastBar (List.getLast_mem dfB.nonempty)
    exact different (decide_eq_true session.symm)
  have splitA : dfA.bars = dfA.bars.dropLast ++ [dfA.lastBar] :=
    (List.dropLast_append_getLast dfA.nonempty).symm
  unfold alignRows
  rw [splitA, List.filterMap_append, List.filterMap_cons, found]
  simp

/-! ### Runs of the loop -/

/-- States that agree except in what was realised and what is called today. -/
def PairState.SameHeld (left right : PairState K) : Prop :=
  left.ratioHistory = right.ratioHistory ∧ left.position = right.position

variable [FloorRing K]

theorem PairState.apply_sameHeld {left right : PairState K} (same : left.SameHeld right)
    (leftToday rightToday : Date) (row : PairRow K) (action : Action) :
    (left.apply leftToday row action).SameHeld (right.apply rightToday row action) := by
  obtain ⟨history, position⟩ := same
  cases action with
  | enter side => exact ⟨history, rfl⟩
  | close side reason =>
      cases held : right.position with
      | none =>
          simp only [PairState.apply, PairState.closePosition, held, position.trans held]
          exact ⟨history, position⟩
      | some holding =>
          simp only [PairState.apply, PairState.closePosition_of_held held,
            PairState.closePosition_of_held (position.trans held)]
          split <;> exact ⟨history, rfl⟩

theorem PairState.foldl_apply_sameHeld {left right : PairState K} (same : left.SameHeld right)
    (leftToday rightToday : Date) (row : PairRow K) (actions : List Action) :
    (actions.foldl (PairState.apply leftToday row) left).SameHeld
      (actions.foldl (PairState.apply rightToday row) right) := by
  induction actions generalizing left right with
  | nil => exact same
  | cons action rest ih =>
      exact ih (PairState.apply_sameHeld same leftToday rightToday row action)

theorem PairState.todayClosed_foldl_apply_of_past {today : Date} {row : PairRow K}
    (past : row.timestamp.date ≠ today) (actions : List Action) (state : PairState K) :
    (actions.foldl (PairState.apply today row) state).todayClosed = state.todayClosed := by
  induction actions generalizing state with
  | nil => rfl
  | cons action rest ih =>
      rw [List.foldl_cons, ih]
      cases action with
      | enter side => rfl
      | close side reason =>
          change (state.closePosition today row reason).todayClosed = _
          cases held : state.position with
          | none => simp only [PairState.closePosition, held]
          | some position =>
              rw [PairState.closePosition_of_held held, if_neg past]
              split <;> rfl

theorem PairState.todayClosed_prefix (today : Date) (row : PairRow K) (actions : List Action)
    (state : PairState K) :
    state.todayClosed <+: (actions.foldl (PairState.apply today row) state).todayClosed := by
  induction actions generalizing state with
  | nil => exact List.prefix_rfl
  | cons action rest ih =>
      apply List.IsPrefix.trans _ (ih (state.apply today row action))
      cases action with
      | enter side => exact List.prefix_rfl
      | close side reason =>
          change _ <+: (state.closePosition today row reason).todayClosed
          cases held : state.position with
          | none =>
              simp only [PairState.closePosition, held]
              exact List.prefix_rfl
          | some position =>
              rw [PairState.closePosition_of_held held]
              split
              · change _ <+: if _ then _ else _
                split
                · exact List.prefix_append _ _
                · exact List.prefix_rfl
              · exact List.prefix_rfl

theorem PairState.todayClosed_ne_nil_of_close {state : PairState K} {position : Position K}
    (held : state.position = some position) (live : position.isLive = true) (row : PairRow K)
    (side : PairSide) (reason : ExitReason) (rest : List Action) :
    ((Action.close side reason :: rest).foldl (PairState.apply row.timestamp.date row)
      state).todayClosed ≠ [] := by
  intro nothing
  have closed : (state.closePosition row.timestamp.date row reason).todayClosed =
      state.todayClosed ++ [position.tradeAt row reason] := by
    rw [PairState.closePosition_of_held held, if_pos live, if_pos rfl]
  have grows := PairState.todayClosed_prefix row.timestamp.date row rest
    (state.closePosition row.timestamp.date row reason)
  rw [List.foldl_cons] at nothing
  change (rest.foldl _ (state.closePosition _ row reason)).todayClosed = [] at nothing
  rw [nothing, closed, List.prefix_nil] at grows
  exact List.append_ne_nil_of_right_ne_nil _ (List.cons_ne_nil _ _) grows

namespace Params

variable {sqrt : K → K} {params : Params K} {rows : List (PairRow K)}

omit [FloorRing K] in
theorem decide_of_sameHeld {left right : PairState K} (same : left.SameHeld right)
    (row : PairRow K) : params.decide sqrt row left = params.decide sqrt row right := by
  unfold decide zScoreAt
  rw [same.1, same.2]

theorem stateAfter_sameHeld (today otherToday : Date) (later : List (PairRow K)) {count : ℕ}
    (inside : count ≤ rows.length) :
    (params.stateAfter sqrt today (rows ++ later) count).SameHeld
      (params.stateAfter sqrt otherToday rows count) := by
  induction count with
  | zero => exact ⟨rfl, rfl⟩
  | succ i ih =>
      have same := ih (Nat.le_of_succ_le inside)
      have found : rows[i]? = some rows[i] := List.getElem?_eq_getElem inside
      have foundLater : (rows ++ later)[i]? = some rows[i] := by
        rw [List.getElem?_append_left inside, found]
      rw [stateAfter_succ foundLater, stateAfter_succ found]
      unfold stepRow
      rw [decide_of_sameHeld same, same.1]
      apply PairState.foldl_apply_sameHeld
      exact ⟨rfl, same.2⟩

/-- Whether the exit rule fires at row `i` for the position held after row `s`. -/
def exitDueAt (sqrt : K → K) (params : Params K) (today : Date) (rows : List (PairRow K))
    (s i : ℕ) : Bool :=
  match rows[i]?, (params.stateAfter sqrt today rows (s + 1)).position with
  | some row, some held =>
      (params.zScoreAt sqrt row (params.stateAfter sqrt today rows i)).any
        (fun z => (params.exitAt z row held).isSome)
  | _, _ => false

def exitDue (sqrt : K → K) (params : Params K) (rows : List (PairRow K)) (s : ℕ) : Bool :=
  rows.getLast?.any (fun last =>
    params.exitDueAt sqrt last.timestamp.date rows s (rows.length - 1))

theorem exitDue_of_getElem? {s i : ℕ} (lengthEq : rows.length = i + 1) {last : PairRow K}
    (found : rows[i]? = some last) :
    params.exitDue sqrt rows s = params.exitDueAt sqrt last.timestamp.date rows s i := by
  unfold exitDue
  rw [getLast?_eq_of_length lengthEq, found, lengthEq]
  rfl

theorem exitDueAt_append (today otherToday : Date) (later : List (PairRow K)) {s i : ℕ}
    (order : s < i) (inside : i < rows.length) :
    params.exitDueAt sqrt today (rows ++ later) s i =
      params.exitDueAt sqrt otherToday rows s i := by
  have heldSame : (params.stateAfter sqrt today (rows ++ later) (s + 1)).SameHeld
      (params.stateAfter sqrt otherToday rows (s + 1)) :=
    stateAfter_sameHeld today otherToday later (Nat.le_of_lt (Nat.lt_of_le_of_lt order inside))
  have same : (params.stateAfter sqrt today (rows ++ later) i).SameHeld
      (params.stateAfter sqrt otherToday rows i) :=
    stateAfter_sameHeld today otherToday later (Nat.le_of_lt inside)
  unfold exitDueAt zScoreAt
  rw [List.getElem?_append_left inside, heldSame.2, same.1]

/-! ### Following a position -/

section Followed

variable {today : Date}

theorem todayClosed_of_early (daily : DailyRows rows) {last : PairRow K} {index count : ℕ}
    (foundLast : rows[index]? = some last) (early : count ≤ index) :
    (params.stateAfter sqrt last.timestamp.date rows count).todayClosed = [] := by
  induction count with
  | zero => rfl
  | succ i ih =>
      have inside : i < rows.length :=
        Nat.lt_trans early (List.getElem?_eq_some_iff.mp foundLast).1
      have found : rows[i]? = some rows[i] := List.getElem?_eq_getElem inside
      have past := daily.date_lt early found foundLast
      rw [stateAfter_succ found]
      unfold stepRow
      rw [PairState.todayClosed_foldl_apply_of_past (ne_of_lt past)]
      exact ih (Nat.le_of_succ_le early)

variable {s : ℕ} {position : Position K}

theorem exitDueAt_of_entered {i : ℕ} {row : PairRow K} (found : rows[i]? = some row)
    (entered : (params.stateAfter sqrt today rows (s + 1)).position = some position) :
    params.exitDueAt sqrt today rows s i =
      (params.zScoreAt sqrt row (params.stateAfter sqrt today rows i)).any
        (fun z => (params.exitAt z row position).isSome) := by
  unfold exitDueAt
  rw [found, entered]

theorem decide_of_held {i : ℕ} {row : PairRow K} (found : rows[i]? = some row)
    (entered : (params.stateAfter sqrt today rows (s + 1)).position = some position)
    (held : (params.stateAfter sqrt today rows i).position = some position) :
    (params.exitDueAt sqrt today rows s i = false ∧
        params.decide sqrt row (params.stateAfter sqrt today rows i) = []) ∨
      ∃ reason rest, params.exitDueAt sqrt today rows s i = true ∧
        params.decide sqrt row (params.stateAfter sqrt today rows i) =
          .close position.side reason :: rest := by
  rw [exitDueAt_of_entered found entered]
  unfold decide
  rw [held]
  cases params.zScoreAt sqrt row (params.stateAfter sqrt today rows i) with
  | none => exact Or.inl ⟨rfl, rfl⟩
  | some z =>
      simp only [Option.any_some, Option.elim_some, actions]
      cases params.exitAt z row position with
      | none => exact Or.inl ⟨rfl, rfl⟩
      | some reason => exact Or.inr ⟨reason, _, rfl, rfl⟩

theorem held_of_not_due
    (entered : (params.stateAfter sqrt today rows (s + 1)).position = some position)
    {count : ℕ} (after : s < count) (inside : count ≤ rows.length)
    (silent : ∀ i, s < i → i < count → params.exitDueAt sqrt today rows s i = false) :
    (params.stateAfter sqrt today rows count).position = some position := by
  induction count with
  | zero => contradiction
  | succ i ih =>
      rcases Nat.lt_or_eq_of_le (Nat.le_of_lt_succ after) with later | same
      · have found : rows[i]? = some rows[i] := List.getElem?_eq_getElem inside
        have held := ih later (Nat.le_of_succ_le inside)
          (fun j low high => silent j low (Nat.lt_succ_of_lt high))
        have silentHere := silent i later (Nat.lt_succ_self i)
        rw [stateAfter_succ found]
        rcases decide_of_held found entered held with
          ⟨_, nothing⟩ | ⟨reason, rest, due, _⟩
        · unfold stepRow
          rw [nothing]
          exact held
        · rw [silentHere] at due
          contradiction
      · rw [← same]
        exact entered

end Followed

end Params

section Report

variable (sqrt : K → K) (symA symB : Ticker) (params : Params K)

/-- What is reported on a later day about the position held after row `s`, as long as
the exit rule has not fired before. -/
structure Followed (rows : List (PairRow K)) (last : PairRow K) (s : ℕ) : Prop where
  exits : params.exitDue sqrt rows s = true →
    (replayRows sqrt symA symB params rows last).todayClosed ≠ []
  holds : params.exitDue sqrt rows s = false →
    (replayRows sqrt symA symB params rows last).todayClosed = [] ∧
      (replayRows sqrt symA symB params rows last).position ≠ none ∧
        (replayRows sqrt symA symB params rows last).isNewToday = false

variable {sqrt symA symB params}

theorem followed_of_entered {rows : List (PairRow K)} {last signalRow : PairRow K} {s n : ℕ}
    (lengthEq : rows.length = n + 1) (found : rows[n]? = some last) (daily : DailyRows rows)
    (after : s < n) (foundSignal : rows[s]? = some signalRow) {position : Position K}
    (entered : (params.stateAfter sqrt last.timestamp.date rows (s + 1)).position =
      some position)
    (dated : position.entryDate.date = signalRow.timestamp.date)
    (started : paperTradingStart ≤ signalRow.timestamp.date)
    (silent : ∀ i, s < i → i < n →
      params.exitDueAt sqrt last.timestamp.date rows s i = false) :
    Followed sqrt symA symB params rows last s := by
  have inside : n ≤ rows.length := by omega
  have held := Params.held_of_not_due entered after inside silent
  have closedBefore : (params.stateAfter sqrt last.timestamp.date rows n).todayClosed = [] :=
    Params.todayClosed_of_early daily found (Nat.le_refl n)
  have decision := Params.decide_of_held found entered held
  have live : position.isLive = true := by
    apply decide_eq_true
    rw [dated]
    exact started
  constructor
  · intro due
    rw [Params.exitDue_of_getElem? lengthEq found] at due
    change (params.stateAfter sqrt _ rows rows.length).todayClosed ≠ []
    rw [lengthEq, Params.stateAfter_succ found]
    rcases decision with ⟨silentHere, _⟩ | ⟨reason, rest, _, closes⟩
    · rw [due] at silentHere
      contradiction
    · unfold Params.stepRow
      rw [closes]
      apply PairState.todayClosed_ne_nil_of_close _ live
      exact held
  · intro silentToday
    rw [Params.exitDue_of_getElem? lengthEq found] at silentToday
    have kept : (params.stateAfter sqrt last.timestamp.date rows rows.length).position =
        some position ∧
        (params.stateAfter sqrt last.timestamp.date rows rows.length).todayClosed = [] := by
      rw [lengthEq, Params.stateAfter_succ found]
      rcases decision with ⟨_, nothing⟩ | ⟨reason, rest, due, _⟩
      · unfold Params.stepRow
        rw [nothing]
        exact ⟨held, closedBefore⟩
      · rw [silentToday] at due
        contradiction
    refine ⟨kept.2, ?_, ?_⟩
    · change (params.stateAfter sqrt _ rows rows.length).position.map _ ≠ none
      rw [kept.1]
      exact Option.some_ne_none _
    · have order := daily.date_lt after foundSignal found
      change ((params.stateAfter sqrt _ rows rows.length).position.map _).any _ = false
      rw [kept.1]
      apply decide_eq_false
      change ¬ position.entryDate.date = last.timestamp.date
      rw [dated]
      exact ne_of_lt order

theorem followed_of_isNewToday {rows later : List (PairRow K)} {last lastLater : PairRow K}
    (isLast : rows.getLast? = some last) (isLastLater : (rows ++ later).getLast? = some lastLater)
    (daily : DailyRows (rows ++ later)) (started : paperTradingStart ≤ last.timestamp.date)
    (grown : later ≠ [])
    (opened : (replayRows sqrt symA symB params rows last).isNewToday = true)
    (silent : ∀ i, rows.length ≤ i → i + 1 < (rows ++ later).length →
      params.exitDueAt sqrt lastLater.timestamp.date (rows ++ later) (rows.length - 1) i = false) :
    Followed sqrt symA symB params (rows ++ later) lastLater (rows.length - 1) := by
  obtain ⟨s, lengthEq⟩ : ∃ s, rows.length = s + 1 := by
    apply Nat.exists_eq_succ_of_ne_zero
    intro empty
    rw [List.length_eq_zero_iff.mp empty] at isLast
    contradiction
  obtain ⟨more, moreEq⟩ : ∃ more, later.length = more + 1 :=
    Nat.exists_eq_succ_of_ne_zero (fun empty => grown (List.length_eq_zero_iff.mp empty))
  have wholeEq : (rows ++ later).length = s + 1 + more + 1 := by
    rw [List.length_append, lengthEq, moreEq]
    omega
  have foundSignal : (rows ++ later)[s]? = some last := by
    rw [List.getElem?_append_left (by omega), ← getLast?_eq_of_length lengthEq, isLast]
  have found : (rows ++ later)[s + 1 + more]? = some lastLater := by
    rw [← getLast?_eq_of_length wholeEq, isLastLater]
  obtain ⟨position, entered, dated⟩ : ∃ position,
      (params.stateAfter sqrt last.timestamp.date rows (s + 1)).position = some position ∧
        position.entryDate.date = last.timestamp.date := by
    obtain ⟨report, reported, new⟩ := (Option.any_eq_true _ _).mp opened
    obtain ⟨position, held, rfl⟩ := Option.map_eq_some_iff.mp reported
    rw [lengthEq] at held
    exact ⟨position, held, of_decide_eq_true new⟩
  have same : (params.stateAfter sqrt lastLater.timestamp.date (rows ++ later) (s + 1)).SameHeld
      (params.stateAfter sqrt last.timestamp.date rows (s + 1)) :=
    Params.stateAfter_sameHeld _ _ later (Nat.le_of_eq lengthEq.symm)
  rw [lengthEq, Nat.add_sub_cancel] at silent ⊢
  have after : s < s + 1 + more := by omega
  exact followed_of_entered wholeEq found daily after foundSignal (same.2.trans entered) dated
    started (fun i low high => silent i low (by omega))

/-! ### One list of rows a day -/

structure DailyPair (rows : ℕ → List (PairRow K)) : Prop where
  grows : GrowingHistory.Grows rows
  daily : ∀ day, DailyRows (rows day)
  started : ∀ day last, (rows day).getLast? = some last → paperTradingStart ≤ last.timestamp.date

theorem exitDueAt_of_day {rows : ℕ → List (PairRow K)} (history : DailyPair rows)
    {s i between day : ℕ} (order : between < day) (after : s < i)
    (lengthEq : (rows between).length = i + 1) (today : Date) :
    params.exitDueAt sqrt today (rows day) s i = params.exitDue sqrt (rows between) s := by
  obtain ⟨later, _, same⟩ := history.grows.exists_later_of_lt order
  have inside : i < (rows between).length := by omega
  rw [same, Params.exitDueAt_append today _ later after inside,
    Params.exitDue_of_getElem? lengthEq (List.getElem?_eq_getElem inside)]

theorem followed_on_later_day {rows : ℕ → List (PairRow K)} (history : DailyPair rows)
    {signalDay day : ℕ} (order : signalDay < day) {last lastLater : PairRow K}
    (isLast : (rows signalDay).getLast? = some last)
    (isLastLater : (rows day).getLast? = some lastLater)
    (opened : (replayRows sqrt symA symB params (rows signalDay) last).isNewToday = true)
    (silent : ∀ between, signalDay < between → between < day →
      params.exitDue sqrt (rows between) ((rows signalDay).length - 1) = false) :
    Followed sqrt symA symB params (rows day) lastLater ((rows signalDay).length - 1) := by
  obtain ⟨later, grown, same⟩ := history.grows.exists_later_of_lt order
  have daily := history.daily day
  have positive : 0 < (rows signalDay).length := by
    apply List.length_pos_of_ne_nil
    intro empty
    rw [empty] at isLast
    contradiction
  have silentAt : ∀ i, (rows signalDay).length ≤ i → i + 1 < (rows day).length →
      params.exitDueAt sqrt lastLater.timestamp.date (rows day)
        ((rows signalDay).length - 1) i = false := by
    intro i low high
    obtain ⟨between, after, before, lengthEq⟩ :=
      history.grows.exists_day (Nat.le_of_lt order) low high
    rw [exitDueAt_of_day history before (by omega) lengthEq]
    exact silent between after before
  rw [same] at daily silentAt isLastLater ⊢
  exact followed_of_isNewToday isLast isLastLater daily (history.started signalDay last isLast)
    grown opened silentAt

end Report

end TradingEngine.PaperTrader
