/-
Replays of a window that slides.

Every day the scripts fetch the last year or two, so old bars drop out of the
frame.  An open position is followed from the replay of a frame to the replay of a
suffix of it: the bars, the fills and the exits are the same, but the indicators
and the position that the shorter replay carries into the entry bar need not be.
-/

import Mathlib.Data.Rat.Sqrt
import TradingEngine.Scripts.DailyReplay

namespace TradingEngine

open DecimalRounding

variable {K : Type} [Field K] [LinearOrder K] [FloorRing K]

namespace ReplayRules

variable {I : Type} {rules : ReplayRules I K} {df : Frame K}

/-! ### The entry of the open position -/

/-- The position that is open at the end was entered at bar `s`: the replay enters
there and does nothing later. -/
def OpenSince (rules : ReplayRules I K) (df : Frame K) (s : ℕ) : Prop :=
  s < df.length ∧ rules.EntersAt df s ∧
    ∀ i, s < i → i < df.length → rules.actionsAt df i = []

/-- What bar `i` decides for a given position. -/
def decisionAt (rules : ReplayRules I K) (df : Frame K) (i : ℕ) (bar : Bar K)
    (position : Option (Position K)) : List (Action K) :=
  rules.actions bar (df.fill i bar) (rules.observe df i bar (rules.stateAfter df i).indicators)
    position

theorem entersAt_iff_decisionAt {i : ℕ} {bar : Bar K} (found : df.bars[i]? = some bar) :
    rules.EntersAt df i ↔
      rules.decisionAt df i bar (rules.stateAfter df i).book.position = [.enter] := by
  unfold EntersAt
  rw [actionsAt_of_getElem? found]
  exact Iff.rfl

theorem exitDueAt_eq_decisionAt {s i : ℕ} {signalBar bar : Bar K}
    (foundSignal : df.bars[s]? = some signalBar) (found : df.bars[i]? = some bar) :
    rules.exitDueAt df s i =
      (rules.decisionAt df i bar (some (rules.terms.positionAt (df.fill s signalBar)))).any
        Action.isExit :=
  exitDueAt_of_getElem? foundSignal found

theorem flat_of_entersAt (single : rules.SingleActions) {i : ℕ} {bar : Bar K}
    (found : df.bars[i]? = some bar) (enters : rules.EntersAt df i) :
    (rules.stateAfter df i).book.position = none := by
  have action := single df i bar found
  rw [enters] at action
  generalize (rules.stateAfter df i).book.position = position at action ⊢
  cases action
  rfl

/-- Among the first `count` bars the replay enters at bar `s` and does nothing later. -/
def LastEntry (rules : ReplayRules I K) (df : Frame K) (count s : ℕ) : Prop :=
  s < count ∧ rules.EntersAt df s ∧ ∀ i, s < i → i < count → rules.actionsAt df i = []

theorem lastEntry_succ_iff {count s : ℕ} :
    rules.LastEntry df (count + 1) s ↔
      (s = count ∧ rules.EntersAt df count) ∨
        (rules.actionsAt df count = [] ∧ rules.LastEntry df count s) := by
  constructor
  · rintro ⟨before, enters, quiet⟩
    rcases Nat.lt_or_eq_of_le (Nat.le_of_lt_succ before) with earlier | same
    · right
      exact ⟨quiet count earlier (Nat.lt_succ_self count), earlier, enters,
        fun i low high => quiet i low (Nat.lt_succ_of_lt high)⟩
    · subst same
      exact Or.inl ⟨rfl, enters⟩
  · intro last
    rcases last with ⟨same, enters⟩ | ⟨nothing, earlier, enters, quiet⟩
    · subst same
      refine ⟨Nat.lt_succ_self s, enters, ?_⟩
      intro i low high
      omega
    · refine ⟨Nat.lt_succ_of_lt earlier, enters, ?_⟩
      intro i low high
      rcases Nat.lt_or_eq_of_le (Nat.le_of_lt_succ high) with sooner | same
      · exact quiet i low sooner
      · rw [same]
        exact nothing

/-- The position that is held after `count` bars is the fill of their last entry. -/
theorem position_eq_some_iff (single : rules.SingleActions) {count : ℕ}
    (inside : count ≤ df.length) (position : Position K) :
    (rules.stateAfter df count).book.position = some position ↔
      ∃ s bar, rules.LastEntry df count s ∧ df.bars[s]? = some bar ∧
        position = rules.terms.positionAt (df.fill s bar) := by
  induction count with
  | zero =>
      constructor
      · intro held
        cases held
      · rintro ⟨s, bar, ⟨before, _⟩, _⟩
        exact absurd before (Nat.not_lt_zero s)
  | succ i ih =>
      have found : df.bars[i]? = some df.bars[i] := List.getElem?_eq_getElem inside
      have before := ih (Nat.le_of_succ_le inside)
      have action := single df i df.bars[i] found
      have split : (∃ s bar, rules.LastEntry df (i + 1) s ∧ df.bars[s]? = some bar ∧
          position = rules.terms.positionAt (df.fill s bar)) ↔
            (rules.EntersAt df i ∧
                position = rules.terms.positionAt (df.fill i df.bars[i])) ∨
              rules.actionsAt df i = [] ∧
                (rules.stateAfter df i).book.position = some position := by
        simp only [before, lastEntry_succ_iff]
        constructor
        · rintro ⟨s, bar, ⟨rfl, enters⟩ | ⟨nothing, last⟩, foundSignal, filled⟩
          · cases found.symm.trans foundSignal
            exact Or.inl ⟨enters, filled⟩
          · exact Or.inr ⟨nothing, s, bar, last, foundSignal, filled⟩
        · rintro (⟨enters, filled⟩ | ⟨nothing, s, bar, last, foundSignal, filled⟩)
          · exact ⟨i, df.bars[i], Or.inl ⟨rfl, enters⟩, found, filled⟩
          · exact ⟨s, bar, Or.inr ⟨nothing, last⟩, foundSignal, filled⟩
      rw [book_succ found, split]
      unfold EntersAt
      cases held : (rules.stateAfter df i).book.position with
      | none =>
          rw [held] at action
          generalize rules.actionsAt df i = actions at action
          cases action with
          | nothing => simp [Book.applyAll, held]
          | enter => simp [Book.applyAll, Book.apply, Book.enterPosition, eq_comm]
      | some holding =>
          rw [held] at action
          generalize rules.actionsAt df i = actions at action
          cases action with
          | nothing => simp [Book.applyAll, held]
          | close _ price date reason dated => simp [Book.applyAll, Book.apply]

theorem openSince_iff (single : rules.SingleActions) {s : ℕ} :
    rules.OpenSince df s ↔
      s < df.length ∧ rules.EntersAt df s ∧
        ∀ i, s < i → i < df.length → rules.exitDueAt df s i = false := by
  constructor
  · rintro ⟨inside, enters, quiet⟩
    refine ⟨inside, enters, ?_⟩
    intro i low high
    have foundSignal : df.bars[s]? = some df.bars[s] := List.getElem?_eq_getElem inside
    have found : df.bars[i]? = some df.bars[i] := List.getElem?_eq_getElem high
    have held := (position_eq_some_iff single (Nat.le_of_lt high) _).mpr
      ⟨s, df.bars[s], ⟨low, enters, fun j after before => quiet j after (Nat.lt_trans before high)⟩,
        foundSignal, rfl⟩
    have nothing := quiet i low high
    rw [actionsAt_of_getElem? found, decide, held] at nothing
    rw [exitDueAt_of_getElem? foundSignal found, nothing]
    rfl
  · rintro ⟨inside, enters, silent⟩
    refine ⟨inside, enters, ?_⟩
    intro i low high
    have foundSignal : df.bars[s]? = some df.bars[s] := List.getElem?_eq_getElem inside
    have held := held_of_not_due single foundSignal enters low (Nat.le_of_lt high)
      (fun j after before => silent j after (Nat.lt_trans before high))
    exact actionsAt_of_held_of_not_due single foundSignal high held (silent i low high)

/-! ### Reported entries -/

def reportedEntry (rules : ReplayRules I K) (df : Frame K) (maxHold : ℤ) : Option (Date × K) :=
  (rules.replay df maxHold).position.map (fun report => (report.entryDate, report.entryPrice))

/-- Date and price that a report shows for an entry that was decided at bar `s`. -/
def entryAt (df : Frame K) (s : ℕ) : Option (Date × K) :=
  (df.bars[s]?).map (fun bar => ((df.fill s bar).2.date, roundTo 2 (df.fill s bar).1))

theorem exists_entryAt {s : ℕ} (inside : s < df.length) : ∃ entry, entryAt df s = some entry := by
  have found : df.bars[s]? = some df.bars[s] := List.getElem?_eq_getElem inside
  rw [entryAt, found]
  exact ⟨_, rfl⟩

theorem reportedEntry_eq_some_iff (single : rules.SingleActions) (maxHold : ℤ)
    (entry : Date × K) :
    rules.reportedEntry df maxHold = some entry ↔
      ∃ s, rules.OpenSince df s ∧ entryAt df s = some entry := by
  have reported : rules.reportedEntry df maxHold =
      (rules.stateAfter df df.length).book.position.map
        (fun position => (position.entryDate.date, roundTo 2 position.entryPrice)) := by
    change Option.map _ (Option.map _ _) = _
    rw [Option.map_map]
    rfl
  rw [reported, Option.map_eq_some_iff]
  constructor
  · rintro ⟨position, held, rfl⟩
    obtain ⟨s, bar, last, found, rfl⟩ :=
      (position_eq_some_iff single (Nat.le_refl _) position).mp held
    refine ⟨s, last, ?_⟩
    rw [entryAt, found]
    rfl
  · rintro ⟨s, ⟨inside, enters, quiet⟩, filled⟩
    have found : df.bars[s]? = some df.bars[s] := List.getElem?_eq_getElem inside
    refine ⟨rules.terms.positionAt (df.fill s df.bars[s]), ?_, ?_⟩
    · exact (position_eq_some_iff single (Nat.le_refl _) _).mpr
        ⟨s, df.bars[s], ⟨inside, enters, quiet⟩, found, rfl⟩
    · rw [entryAt, found] at filled
      exact Option.some.inj filled

omit [FloorRing K] in
theorem fill_settled {s : ℕ} (settled : s + 1 < df.length) (bar : Bar K) :
    df.fill s bar = (df.bars[s + 1].openPrice, df.bars[s + 1].timestamp) := by
  have next : df.bars[s + 1]? = some df.bars[s + 1] := List.getElem?_eq_getElem settled
  unfold Frame.fill
  rw [next]

theorem entryAt_settled {s : ℕ} (settled : s + 1 < df.length) :
    entryAt df s =
      some (df.bars[s + 1].timestamp.date, roundTo 2 df.bars[s + 1].openPrice) := by
  have inside : s < df.length := Nat.lt_of_succ_lt settled
  have found : df.bars[s]? = some df.bars[s] := List.getElem?_eq_getElem inside
  rw [entryAt, found, Option.map_some, fill_settled settled]

theorem entryAt_last {s : ℕ} (last : s + 1 = df.length) :
    entryAt df s = some (df.todayDate, roundTo 2 df.lastBar.close) := by
  have lastEq : s = df.length - 1 := by omega
  rw [entryAt, lastEq, df.getElem?_last, Option.map_some, df.fill_last]
  rfl

theorem entryAt_beforeLast {s : ℕ} (beforeLast : s + 2 = df.length) :
    entryAt df s = some (df.todayDate, roundTo 2 df.lastBar.openPrice) := by
  have inside : s < df.length := by omega
  have found : df.bars[s]? = some df.bars[s] := List.getElem?_eq_getElem inside
  have lastEq : df.length - 1 = s + 1 := by omega
  have next : df.bars[s + 1]? = some df.lastBar := lastEq ▸ df.getElem?_last
  rw [entryAt, found, Option.map_some]
  unfold Frame.fill
  rw [next]
  rfl

theorem entryAt_eq_iff (daily : df.Daily) {s other : ℕ} (before : s < other)
    (inside : other < df.length) :
    entryAt df s = entryAt df other ↔
      df.length ≤ s + 2 ∧ roundTo 2 df.lastBar.openPrice = roundTo 2 df.lastBar.close := by
  have settled : s + 1 < df.length := by omega
  have found : df.bars[s + 1]? = some df.bars[s + 1] := List.getElem?_eq_getElem settled
  rcases Nat.lt_or_eq_of_le (Nat.succ_le_of_lt inside) with otherSettled | last
  · have foundOther : df.bars[other + 1]? = some df.bars[other + 1] :=
      List.getElem?_eq_getElem otherSettled
    have order := daily.date_lt (Nat.succ_lt_succ before) found foundOther
    rw [entryAt_settled settled, entryAt_settled otherSettled]
    constructor
    · intro same
      exact absurd (congrArg Prod.fst (Option.some.inj same)) (ne_of_lt order)
    · rintro ⟨late, _⟩
      omega
  · rcases Nat.lt_or_eq_of_le settled with early | beforeLast
    · have order := daily.date_lt_today early found
      rw [entryAt_settled settled, entryAt_last last]
      constructor
      · intro same
        exact absurd (congrArg Prod.fst (Option.some.inj same)) (ne_of_lt order)
      · rintro ⟨late, _⟩
        omega
    · rw [entryAt_beforeLast beforeLast, entryAt_last last, Option.some.injEq, Prod.mk.injEq]
      constructor
      · rintro ⟨_, same⟩
        exact ⟨Nat.le_of_eq beforeLast.symm, same⟩
      · rintro ⟨_, same⟩
        exact ⟨rfl, same⟩

/-! ### Two windows with one last bar -/

variable {count : ℕ} (inside : count < df.length)

theorem entryAt_drop (j : ℕ) : entryAt (df.drop count inside) j = entryAt df (count + j) := by
  unfold entryAt
  rw [df.getElem?_drop inside]
  simp only [df.fill_drop inside]

/-- Every open position of `df` that was entered after the warm-up of the suffix is open
in the replay of the suffix with the same reported entry. -/
def KeepsEntry (rules : ReplayRules I K) (warmup : ℕ) (maxHold : ℤ) : Prop :=
  ∀ s entry, rules.OpenSince df s → count + warmup ≤ s →
    rules.reportedEntry df maxHold = some entry →
      rules.reportedEntry (df.drop count inside) maxHold = some entry

/-- The replay entered on the other one of the last two bars, and the open and the close
of the last bar are reported as the same price. -/
def OpenBeside (rules : ReplayRules I K) (df : Frame K) (s : ℕ) : Prop :=
  roundTo 2 df.lastBar.openPrice = roundTo 2 df.lastBar.close ∧ df.length ≤ s + 2 ∧
    ∃ other, other ≠ s ∧ df.length ≤ other + 2 ∧ rules.OpenSince df other

theorem reportedEntry_eq_entryAt_iff (single : rules.SingleActions) (daily : df.Daily) {s : ℕ}
    (bound : s < df.length) (maxHold : ℤ) :
    rules.reportedEntry df maxHold = entryAt df s ↔
      rules.OpenSince df s ∨ rules.OpenBeside df s := by
  obtain ⟨entry, filled⟩ := exists_entryAt bound
  rw [filled, reportedEntry_eq_some_iff single]
  constructor
  · rintro ⟨other, isOpen, same⟩
    rw [← filled] at same
    rcases Nat.lt_trichotomy other s with before | rfl | after
    · obtain ⟨late, rounded⟩ := (entryAt_eq_iff daily before bound).mp same
      exact Or.inr ⟨rounded, by omega, other, Nat.ne_of_lt before, late, isOpen⟩
    · exact Or.inl isOpen
    · obtain ⟨late, rounded⟩ := (entryAt_eq_iff daily after isOpen.1).mp same.symm
      exact Or.inr ⟨rounded, late, other, Nat.ne_of_gt after, by omega, isOpen⟩
  · rintro (isOpen | ⟨rounded, late, other, different, otherLate, isOpen⟩)
    · exact ⟨s, isOpen, filled⟩
    · refine ⟨other, isOpen, ?_⟩
      rw [← filled]
      rcases Nat.lt_or_gt_of_ne different with before | after
      · exact (entryAt_eq_iff daily before bound).mpr ⟨otherLate, rounded⟩
      · exact ((entryAt_eq_iff daily after isOpen.1).mpr ⟨late, rounded⟩).symm

/-- The suffix keeps the entries when it holds them itself, under whatever condition that
is, or holds the one beside. -/
theorem keepsEntry_iff (single : rules.SingleActions) (daily : df.Daily) {warmup : ℕ}
    (maxHold : ℤ) {Holds : ℕ → Prop}
    (holds : ∀ j, warmup ≤ j → rules.OpenSince df (count + j) →
      (rules.OpenSince (df.drop count inside) j ↔ Holds j)) :
    KeepsEntry inside rules warmup maxHold ↔
      ∀ j, warmup ≤ j → rules.OpenSince df (count + j) →
        Holds j ∨ rules.OpenBeside (df.drop count inside) j := by
  have reports : ∀ j, rules.OpenSince df (count + j) →
      rules.reportedEntry df maxHold = entryAt df (count + j) := by
    intro j isOpen
    exact (reportedEntry_eq_entryAt_iff single daily isOpen.1 maxHold).mpr (Or.inl isOpen)
  have bounds : ∀ j, rules.OpenSince df (count + j) → j < (df.drop count inside).length := by
    intro j isOpen
    have before := isOpen.1
    rw [df.length_drop inside]
    omega
  constructor
  · intro keeps j late isOpen
    obtain ⟨entry, filled⟩ := exists_entryAt isOpen.1
    have kept := keeps (count + j) entry isOpen (Nat.add_le_add_left late count)
      ((reports j isOpen).trans filled)
    rw [← holds j late isOpen]
    apply (reportedEntry_eq_entryAt_iff single (daily.drop inside) (bounds j isOpen) maxHold).mp
    rw [kept, entryAt_drop inside, filled]
  · intro condition s entry isOpen late reported
    obtain ⟨j, rfl⟩ : ∃ j, s = count + j := ⟨s - count, by omega⟩
    have warm : warmup ≤ j := Nat.le_of_add_le_add_left late
    have shorter := condition j warm isOpen
    rw [← holds j warm isOpen] at shorter
    rw [(reportedEntry_eq_entryAt_iff single (daily.drop inside) (bounds j isOpen) maxHold).mpr
      shorter, entryAt_drop inside, ← reports j isOpen, reported]

/-- The entry of a position that `df` holds is open in the suffix when the suffix enters
there and its own exit tests leave it alone. -/
theorem openSince_drop_iff (single : rules.SingleActions) {j : ℕ}
    (isOpen : rules.OpenSince df (count + j)) (Stays : ℕ → Prop)
    (exits : ∀ i signalBar bar, j < i → df.bars[count + j]? = some signalBar →
      df.bars[count + i]? = some bar → rules.exitDueAt df (count + j) (count + i) = false →
        (rules.exitDueAt (df.drop count inside) j i = false ↔ Stays i)) :
    rules.OpenSince (df.drop count inside) j ↔
      rules.EntersAt (df.drop count inside) j ∧
        ∀ i, j < i → i < (df.drop count inside).length → Stays i := by
  obtain ⟨bound, _, silent⟩ := (openSince_iff single).mp isOpen
  have shortBound : j < (df.drop count inside).length := by
    rw [df.length_drop inside]
    omega
  have exitsAt : ∀ i, j < i → i < (df.drop count inside).length →
      (rules.exitDueAt (df.drop count inside) j i = false ↔ Stays i) := by
    intro i after before
    rw [df.length_drop inside] at before
    have later : count + i < df.length := by omega
    exact exits i df.bars[count + j] df.bars[count + i] after (List.getElem?_eq_getElem bound)
      (List.getElem?_eq_getElem later) (silent (count + i) (Nat.add_lt_add_left after count) later)
  rw [openSince_iff single]
  constructor
  · rintro ⟨_, enters, quiet⟩
    exact ⟨enters, fun i after before => (exitsAt i after before).mp (quiet i after before)⟩
  · rintro ⟨enters, stays⟩
    exact ⟨shortBound, enters,
      fun i after before => (exitsAt i after before).mpr (stays i after before)⟩

end ReplayRules

/-! ### MA Pullback -/

namespace MAPullbackTrader.Params

variable (params : MAPullbackTrader.Params K) {df : Frame K} {i s : ℕ} {bar signalBar : Bar K}

/-- The indicators that the decision at bar `i` reads. -/
def observedAt (df : Frame K) (i : ℕ) (bar : Bar K) : RsiState K :=
  params.rules.observe df i bar (params.rules.stateAfter df i).indicators

/-- No position is held before bar `i`, and the bar passes the entry test. -/
def TakesEntry (df : Frame K) (i : ℕ) : Prop :=
  (params.rules.stateAfter df i).book.position = none ∧
    ∀ bar, df.bars[i]? = some bar → params.isEntry bar (params.observedAt df i bar) = true

theorem closeHistory_length (df : Frame K) {count : ℕ} (inside : count ≤ df.length) :
    (params.rules.stateAfter df count).indicators.closeHistory.length =
      min count (max params.trendMaPeriod params.pullbackMaPeriod + 1) := by
  induction count with
  | zero => exact (Nat.zero_min _).symm
  | succ i ih =>
      have before := ih (Nat.le_of_succ_le inside)
      have found : df.bars[i]? = some df.bars[i] := List.getElem?_eq_getElem inside
      rw [ReplayRules.stateAfter_succ, ReplayRules.stepAt_of_getElem? found]
      change (RsiState.observe _ _ _ _).closeHistory.length = _
      rw [RsiState.length_observe _ _ (by omega), before]
      omega

theorem ready_of_warm (found : df.bars[i]? = some bar) (warm : params.trendMaPeriod ≤ i + 1) :
    ¬ (params.observedAt df i bar).closeHistory.length < params.trendMaPeriod := by
  have inside : i < df.length := (List.getElem?_eq_some_iff.mp found).1
  have before := params.closeHistory_length df (Nat.le_of_lt inside)
  unfold observedAt
  change ¬ (RsiState.observe _ _ _ _).closeHistory.length < _
  rw [RsiState.length_observe _ _ (by omega), before]
  omega

theorem entersAt_iff (found : df.bars[i]? = some bar) (warm : params.trendMaPeriod ≤ i + 1) :
    params.rules.EntersAt df i ↔ params.TakesEntry df i := by
  have ready := params.ready_of_warm found warm
  unfold TakesEntry
  rw [ReplayRules.entersAt_iff_decisionAt found]
  change params.actions bar (df.fill i bar) (params.observedAt df i bar) _ = _ ↔ _
  cases held : (params.rules.stateAfter df i).book.position with
  | none => simp [params.actions_of_flat ready, found]
  | some position =>
      rw [params.actions_of_held ready]
      cases params.exitReason bar position with
      | none => simp
      | some reason => simp

theorem exitDueAt_eq (foundSignal : df.bars[s]? = some signalBar)
    (found : df.bars[i]? = some bar) (warm : params.trendMaPeriod ≤ i + 1) :
    params.rules.exitDueAt df s i =
      (params.exitReason bar (params.rules.terms.positionAt (df.fill s signalBar))).isSome := by
  have ready := params.ready_of_warm found warm
  rw [ReplayRules.exitDueAt_eq_decisionAt foundSignal found]
  change (params.actions bar (df.fill i bar) (params.observedAt df i bar) (some _)).any
    Action.isExit = _
  rw [params.actions_of_held ready]
  cases params.exitReason bar (params.rules.terms.positionAt (df.fill s signalBar)) <;> rfl

variable {count j : ℕ} (inside : count < df.length)

theorem openSince_drop_iff (warm : params.trendMaPeriod ≤ j + 1)
    (isOpen : params.rules.OpenSince df (count + j)) :
    params.rules.OpenSince (df.drop count inside) j ↔
      params.TakesEntry (df.drop count inside) j := by
  have bound : count + j < df.length := isOpen.1
  have found : (df.drop count inside).bars[j]? = some df.bars[count + j] :=
    (df.getElem?_drop inside j).trans (List.getElem?_eq_getElem bound)
  rw [← params.entersAt_iff found warm,
    ReplayRules.openSince_drop_iff inside params.rules_singleActions isOpen (fun _ => True)]
  · exact and_iff_left (fun _i _after _before => trivial)
  · intro i signalBar bar after foundSignal foundBar silent
    rw [params.exitDueAt_eq foundSignal foundBar (by omega)] at silent
    rw [params.exitDueAt_eq ((df.getElem?_drop inside j).trans foundSignal)
      ((df.getElem?_drop inside i).trans foundBar) (by omega), df.fill_drop inside, silent]
    exact iff_of_true rfl trivial

end MAPullbackTrader.Params

/-! ### BB Squeeze -/

namespace BBSqueezeTrader.Params

variable (sqrt : K → K) (params : BBSqueezeTrader.Params K) {df : Frame K} {count j : ℕ}
  (inside : count < df.length)

omit [FloorRing K] in
theorem windowBefore_drop {stop : ℕ} (full : bbWindow ≤ stop) :
    windowBefore (df.drop count inside) stop = windowBefore df (count + stop) := by
  have start : count + (stop - bbWindow) = count + stop - bbWindow := by omega
  unfold windowBefore
  change (((df.bars.drop count).map Bar.close).drop (stop - bbWindow)).take bbWindow = _
  rw [List.map_drop, List.drop_drop, start]

omit [FloorRing K] in
theorem readingAt_drop {i : ℕ} (full : bbWindow ≤ i) :
    params.readingAt sqrt (df.drop count inside) i = params.readingAt sqrt df (count + i) := by
  unfold readingAt
  rw [if_neg (by omega), if_neg (by omega), windowBefore_drop inside full,
    windowBefore_drop inside (Nat.le_succ_of_le full)]
  rfl

theorem decisionAt_drop {i : ℕ} (full : bbWindow ≤ i) (bar : Bar K)
    (position : Option (Position K)) :
    (params.rules sqrt).decisionAt (df.drop count inside) i bar position =
      (params.rules sqrt).decisionAt df (count + i) bar position := by
  unfold ReplayRules.decisionAt
  change params.actions bar _ (params.readingAt sqrt (df.drop count inside) i) position =
    params.actions bar _ (params.readingAt sqrt df (count + i)) position
  rw [df.fill_drop inside, params.readingAt_drop sqrt inside full]

/-- The bands are read from the bars, so the suffix enters wherever it holds nothing. -/
theorem openSince_drop_iff (full : bbWindow ≤ j)
    (isOpen : (params.rules sqrt).OpenSince df (count + j)) :
    (params.rules sqrt).OpenSince (df.drop count inside) j ↔
      ((params.rules sqrt).stateAfter (df.drop count inside) j).book.position = none := by
  have single := params.rules_singleActions sqrt
  have bound : count + j < df.length := isOpen.1
  have found : df.bars[count + j]? = some df.bars[count + j] := List.getElem?_eq_getElem bound
  have foundShort := (df.getElem?_drop inside j).trans found
  have enters : (params.rules sqrt).EntersAt (df.drop count inside) j ↔
      ((params.rules sqrt).stateAfter (df.drop count inside) j).book.position = none := by
    constructor
    · exact ReplayRules.flat_of_entersAt single foundShort
    · intro flat
      have flatLong := ReplayRules.flat_of_entersAt single found isOpen.2.1
      have entersLong := (ReplayRules.entersAt_iff_decisionAt found).mp isOpen.2.1
      rw [flatLong] at entersLong
      rw [ReplayRules.entersAt_iff_decisionAt foundShort, flat,
        params.decisionAt_drop sqrt inside full]
      exact entersLong
  rw [← enters, ReplayRules.openSince_drop_iff inside single isOpen (fun _ => True)]
  · exact and_iff_left (fun _i _after _before => trivial)
  · intro i signalBar bar after foundSignal foundBar silent
    rw [ReplayRules.exitDueAt_eq_decisionAt foundSignal foundBar] at silent
    rw [ReplayRules.exitDueAt_eq_decisionAt ((df.getElem?_drop inside j).trans foundSignal)
      ((df.getElem?_drop inside i).trans foundBar), df.fill_drop inside j,
      params.decisionAt_drop sqrt inside (by omega), silent]
    exact iff_of_true rfl trivial

end BBSqueezeTrader.Params

/-! ### Supertrend -/

namespace SupertrendTrader.Params

variable (params : SupertrendTrader.Params K) {df : Frame K} {i s : ℕ} {bar signalBar : Bar K}

/-- Trend before and after bar `i`, absent while the loop skips the bar. -/
def flipAt (df : Frame K) (i : ℕ) : Option Flip :=
  (df.bars[i]?).bind (fun bar =>
    (params.observe df i bar (params.rules.stateAfter df i).indicators).flip)

def TurnsBullish (df : Frame K) (i : ℕ) : Prop :=
  ∃ flip, params.flipAt df i = some flip ∧ flip.isBullish = true

def TurnsBearish (df : Frame K) (i : ℕ) : Prop :=
  ∃ flip, params.flipAt df i = some flip ∧ flip.isBearish = true

/-- The trend turns bullish at bar `s` and stays so up to the last bar. -/
def BullishFrom (df : Frame K) (s : ℕ) : Prop :=
  params.TurnsBullish df s ∧ ∀ i, s < i → i < df.length → ¬ params.TurnsBearish df i

theorem decisionAt_of_skipped (found : df.bars[i]? = some bar)
    (skipped : params.flipAt df i = none) (position : Option (Position K)) :
    params.rules.decisionAt df i bar position = [] := by
  rw [flipAt, found] at skipped
  exact params.actions_of_skipped skipped bar _ position

theorem decisionAt_of_flat {flip : Flip} (found : df.bars[i]? = some bar)
    (ready : params.flipAt df i = some flip) :
    params.rules.decisionAt df i bar none = if flip.isBullish then [.enter] else [] := by
  rw [flipAt, found] at ready
  exact params.actions_of_flat ready bar (df.fill i bar)

theorem decisionAt_any_isExit {flip : Flip} (found : df.bars[i]? = some bar)
    (ready : params.flipAt df i = some flip) (held : Position K) :
    (params.rules.decisionAt df i bar (some held)).any Action.isExit =
      (params.exitReason bar flip held).isSome := by
  rw [flipAt, found] at ready
  change (params.actions bar (df.fill i bar) (params.observe df i bar _) (some held)).any _ = _
  rw [params.actions_of_held ready]
  cases params.exitReason bar flip held <;> rfl

/-- A bullish turn finds no position, since a position is held in a bullish trend only. -/
theorem flat_of_turnsBullish (found : df.bars[i]? = some bar)
    (turns : params.TurnsBullish df i) :
    (params.rules.stateAfter df i).book.position = none := by
  obtain ⟨flip, ready, bullish⟩ := turns
  rw [flipAt, found] at ready
  cases held : (params.rules.stateAfter df i).book.position with
  | none => rfl
  | some position =>
      have trend := params.stateAfter_bullishWhileHeld df i (held ▸ Option.some_ne_none position)
      rcases params.observe_cases df i bar (params.rules.stateAfter df i).indicators with
        ⟨skipped, _⟩ | ⟨newTrend, _, read, _⟩
      · cases skipped.symm.trans ready
      · cases read.symm.trans ready
        simp [Flip.isBullish, trend] at bullish

theorem entersAt_iff (found : df.bars[i]? = some bar) :
    params.rules.EntersAt df i ↔ params.TurnsBullish df i := by
  rw [ReplayRules.entersAt_iff_decisionAt found]
  constructor
  · intro enters
    have flat := ReplayRules.flat_of_entersAt params.rules_singleActions found
      ((ReplayRules.entersAt_iff_decisionAt found).mpr enters)
    rw [flat] at enters
    cases ready : params.flipAt df i with
    | none =>
        rw [params.decisionAt_of_skipped found ready] at enters
        contradiction
    | some flip =>
        rw [params.decisionAt_of_flat found ready] at enters
        split_ifs at enters with bullish
        exact ⟨flip, ready, bullish⟩
  · intro turns
    rw [params.flat_of_turnsBullish found turns]
    obtain ⟨flip, ready, bullish⟩ := turns
    rw [params.decisionAt_of_flat found ready, if_pos bullish]

omit [FloorRing K] in
theorem observe_flip_ne_none_iff (state : Indicators K) :
    (params.observe df i bar state).flip ≠ none ↔
      (params.observe df i bar state).atr.atrSeeded = true ∧ prevClose df i ≠ none := by
  dsimp only [observe]
  split
  · rename_i _seeded _close seeded previous
    exact iff_of_true (Option.some_ne_none _) ⟨seeded, previous ▸ Option.some_ne_none _⟩
  · rename_i skipped
    constructor
    · intro ready
      exact absurd rfl ready
    · rintro ⟨seeded, previous⟩
      obtain ⟨close, found⟩ := Option.ne_none_iff_exists'.mp previous
      exact absurd found (skipped close seeded)

omit [FloorRing K] in
theorem observe_keeps_atrSeeded {state : Indicators K} (seeded : state.atr.atrSeeded = true) :
    (params.observe df i bar state).atr.atrSeeded = true := by
  have kept : (state.atr.observe params.atrPeriod
      (trueRange bar (prevClose df i))).atrSeeded = true := by
    unfold Atr.observe
    rw [if_pos seeded]
    exact seeded
  dsimp only [observe]
  split
  · exact kept
  · exact kept

theorem atrSeeded_of_flipAt (ready : params.flipAt df s ≠ none) {count : ℕ} (after : s < count)
    (inside : count ≤ df.length) :
    (params.rules.stateAfter df count).indicators.atr.atrSeeded = true := by
  induction count with
  | zero => contradiction
  | succ i ih =>
      have found : df.bars[i]? = some df.bars[i] := List.getElem?_eq_getElem inside
      rw [ReplayRules.stateAfter_succ, ReplayRules.stepAt_of_getElem? found]
      rcases Nat.lt_or_eq_of_le (Nat.le_of_lt_succ after) with later | same
      · exact params.observe_keeps_atrSeeded (ih later (Nat.le_of_succ_le inside))
      · subst same
        rw [flipAt, found] at ready
        exact ((params.observe_flip_ne_none_iff _).mp ready).1

theorem flipAt_of_later (ready : params.flipAt df s ≠ none) (after : s < i)
    (inside : i < df.length) : ∃ flip, params.flipAt df i = some flip := by
  obtain ⟨previous, rfl⟩ : ∃ previous, i = previous + 1 :=
    Nat.exists_eq_succ_of_ne_zero (Nat.ne_zero_of_lt after)
  have found : df.bars[previous + 1]? = some df.bars[previous + 1] :=
    List.getElem?_eq_getElem inside
  have earlier : previous < df.length := Nat.lt_of_succ_lt inside
  have before : df.bars[previous]? = some df.bars[previous] := List.getElem?_eq_getElem earlier
  have seeded := params.atrSeeded_of_flipAt ready after (Nat.le_of_lt inside)
  rw [← Option.ne_none_iff_exists', flipAt, found]
  apply (params.observe_flip_ne_none_iff _).mpr
  refine ⟨params.observe_keeps_atrSeeded seeded, ?_⟩
  rw [prevClose, before]
  exact Option.some_ne_none _

omit [FloorRing K] in
theorem exitReason_isSome_of_none {flip other : Flip} {held : Position K}
    (silent : params.exitReason bar flip held = none) :
    (params.exitReason bar other held).isSome = other.isBearish := by
  unfold exitReason at silent ⊢
  split_ifs at silent with bearish stopped expired
  cases turns : other.isBearish with
  | true => rfl
  | false => rw [if_neg Bool.false_ne_true, if_neg stopped, if_neg expired, Option.isSome_none]

variable {count j : ℕ} (inside : count < df.length)

/-- The suffix reports the position exactly when its own trend turns bullish at the entry
bar and stays so. -/
theorem openSince_drop_iff (isOpen : params.rules.OpenSince df (count + j)) :
    params.rules.OpenSince (df.drop count inside) j ↔
      params.BullishFrom (df.drop count inside) j := by
  have bound : count + j < df.length := isOpen.1
  have found : df.bars[count + j]? = some df.bars[count + j] := List.getElem?_eq_getElem bound
  have foundShort := (df.getElem?_drop inside j).trans found
  obtain ⟨entryFlip, ready, _⟩ := (params.entersAt_iff found).mp isOpen.2.1
  unfold BullishFrom
  rw [← params.entersAt_iff foundShort]
  apply ReplayRules.openSince_drop_iff inside params.rules_singleActions isOpen
  intro i signalBar bar after foundSignal foundBar silent
  obtain ⟨flip, readyLong⟩ := params.flipAt_of_later (ready ▸ Option.some_ne_none entryFlip)
    (Nat.add_lt_add_left after count) (List.getElem?_eq_some_iff.mp foundBar).1
  have foundBarShort := (df.getElem?_drop inside i).trans foundBar
  rw [ReplayRules.exitDueAt_eq_decisionAt foundSignal foundBar,
    params.decisionAt_any_isExit foundBar readyLong, Option.isSome_eq_false_iff,
    Option.isNone_iff_eq_none] at silent
  rw [ReplayRules.exitDueAt_eq_decisionAt ((df.getElem?_drop inside j).trans foundSignal)
    foundBarShort, df.fill_drop inside j]
  cases readyShort : params.flipAt (df.drop count inside) i with
  | none =>
      rw [params.decisionAt_of_skipped foundBarShort readyShort]
      refine iff_of_true rfl ?_
      rintro ⟨other, read, _⟩
      cases readyShort.symm.trans read
  | some other =>
      rw [params.decisionAt_any_isExit foundBarShort readyShort,
        params.exitReason_isSome_of_none silent]
      constructor
      · rintro calm ⟨read, readEq, bearish⟩
        cases readyShort.symm.trans readEq
        rw [calm] at bearish
        contradiction
      · intro calm
        by_contra bearish
        exact calm ⟨other, readyShort, eq_true_of_ne_false bearish⟩

end SupertrendTrader.Params

/-! ### The three strategies -/

/-- A replay of a suffix keeps the open positions of the longer replay exactly when it
takes the same entry itself, from the indicators and the position that it carries into
the entry bar. -/
theorem keepsEntry_iff_of_strategies (sqrt : K → K) (maParams : MAPullbackTrader.Params K)
    (bbParams : BBSqueezeTrader.Params K) (stParams : SupertrendTrader.Params K) {df : Frame K}
    (daily : df.Daily) {count : ℕ} (inside : count < df.length) :
    (ReplayRules.KeepsEntry inside maParams.rules (maParams.trendMaPeriod - 1)
        maParams.maxHoldDays ↔
      ∀ j, maParams.trendMaPeriod - 1 ≤ j → maParams.rules.OpenSince df (count + j) →
        maParams.TakesEntry (df.drop count inside) j ∨
          maParams.rules.OpenBeside (df.drop count inside) j) ∧
      (ReplayRules.KeepsEntry inside (bbParams.rules sqrt) BBSqueezeTrader.bbWindow
          bbParams.maxHoldDays ↔
        ∀ j, BBSqueezeTrader.bbWindow ≤ j → (bbParams.rules sqrt).OpenSince df (count + j) →
          ((bbParams.rules sqrt).stateAfter (df.drop count inside) j).book.position = none ∨
            (bbParams.rules sqrt).OpenBeside (df.drop count inside) j) ∧
      (ReplayRules.KeepsEntry inside stParams.rules (max (stParams.atrPeriod - 1) 1)
          stParams.maxHoldDays ↔
        ∀ j, max (stParams.atrPeriod - 1) 1 ≤ j → stParams.rules.OpenSince df (count + j) →
          stParams.BullishFrom (df.drop count inside) j ∨
            stParams.rules.OpenBeside (df.drop count inside) j) := by
  refine ⟨?_, ?_, ?_⟩
  · apply ReplayRules.keepsEntry_iff inside maParams.rules_singleActions daily
    intro j late isOpen
    exact maParams.openSince_drop_iff inside (Nat.le_add_of_sub_le late) isOpen
  · apply ReplayRules.keepsEntry_iff inside (bbParams.rules_singleActions sqrt) daily
    intro j full isOpen
    exact bbParams.openSince_drop_iff sqrt inside full isOpen
  · apply ReplayRules.keepsEntry_iff inside stParams.rules_singleActions daily
    intro j _late isOpen
    exact stParams.openSince_drop_iff inside isOpen

/-! ### A fall that only the longer window remembers -/

def quotedBar (day : ℤ) (price : ℚ) (positive : 0 < price) : Bar ℚ :=
  { timestamp := ⟨86400 * day⟩
    openPrice := price
    high := price
    low := price
    close := price
    open_pos := positive
    close_pos := positive }

def afterFallBars : List (Bar ℚ) :=
  [quotedBar 20701 100 hundred_pos, quotedBar 20702 120 (by norm_num),
    quotedBar 20703 115 (by norm_num), quotedBar 20704 116 (by norm_num),
    quotedBar 20705 117 (by norm_num)]

def withFall : Frame ℚ :=
  { bars := quotedBar 20700 500 (by norm_num) :: afterFallBars
    nonempty := List.cons_ne_nil _ _ }

/-- One bar more, so that the suffix without it still starts with the fall. -/
def beforeFall : Frame ℚ :=
  { bars := quotedBar 20699 600 (by norm_num) :: withFall.bars
    nonempty := List.cons_ne_nil _ _ }

def shortMemory : MAPullbackTrader.Params ℚ :=
  { trendMaPeriod := 3
    pullbackMaPeriod := 2
    rsiPeriod := 2
    rsiOversold := 30
    stopLossPct := 5
    targetPct := 10
    maxHoldDays := 30 }

theorem beforeFall_inside : 1 < beforeFall.length := by
  decide

theorem withFall_inside : 1 < withFall.length := by
  decide

theorem beforeFall_keepsEntry :
    ReplayRules.KeepsEntry beforeFall_inside shortMemory.rules
      (shortMemory.trendMaPeriod - 1) shortMemory.maxHoldDays := by
  have daily : beforeFall.Daily := by decide
  let squeeze : BBSqueezeTrader.Params ℚ :=
    { squeezeThreshold := 1, stopLossPct := 5, maxHoldDays := 30 }
  let trendFollowing : SupertrendTrader.Params ℚ :=
    { atrPeriod := 10, multiplier := 3, stopLossPct := 5, maxHoldDays := 30 }
  apply (keepsEntry_iff_of_strategies Rat.sqrt shortMemory squeeze trendFollowing daily
    beforeFall_inside).1.mpr
  intro j late isOpen
  have bound : 1 + j < 7 := isOpen.1
  have enters : shortMemory.rules.actionsAt beforeFall (1 + j) = [.enter] := isOpen.2.1
  change 2 ≤ j at late
  obtain rfl | rfl | rfl | rfl : j = 2 ∨ j = 3 ∨ j = 4 ∨ j = 5 := by omega
  · exact absurd enters (by decide +kernel)
  · refine Or.inl ⟨by decide +kernel, ?_⟩
    intro bar found
    cases found
    decide +kernel
  · exact absurd enters (by decide +kernel)
  · exact absurd enters (by decide +kernel)

theorem withFall_daily : withFall.Daily := by
  decide

/-- Without the bar of the fall the RSI of the entry bar is 80 instead of 5, and the open
position is gone. -/
theorem withFall_loses_entry :
    withFall.Daily ∧ shortMemory.trendMaPeriod + 2 ≤ withFall.length ∧
      shortMemory.trendMaPeriod + 2 ≤ (withFall.drop 1 withFall_inside).length ∧
        ¬ ReplayRules.KeepsEntry withFall_inside shortMemory.rules
          (shortMemory.trendMaPeriod - 1) shortMemory.maxHoldDays := by
  refine ⟨withFall_daily, by decide, by decide, ?_⟩
  intro keeps
  have quiet : ∀ i, 3 < i → i < withFall.length → shortMemory.rules.actionsAt withFall i = [] := by
    intro i after before
    change i < 6 at before
    obtain rfl | rfl : i = 4 ∨ i = 5 := by omega
    · decide +kernel
    · decide +kernel
  have isOpen : shortMemory.rules.OpenSince withFall 3 := by
    refine ⟨by decide, ?_, quiet⟩
    change shortMemory.rules.actionsAt withFall 3 = [.enter]
    decide +kernel
  have reported : shortMemory.rules.reportedEntry withFall 30 = some (20704, 116) := by
    decide +kernel
  have kept := keeps 3 _ isOpen (by decide) reported
  have missing : shortMemory.rules.reportedEntry (withFall.drop 1 withFall_inside) 30 = none := by
    decide +kernel
  exact absurd (missing.symm.trans kept) (by decide)

end TradingEngine
