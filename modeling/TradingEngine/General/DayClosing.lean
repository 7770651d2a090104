/-
Days that end with nothing open.

What a machine holds of a key counts for one day only, and an event of the day changes it by
the flow of its answer.  In a run in the order of its days the flows of a day add up to what
is held of that day at its end.  Late events open nothing new and close some keys; then the
late days end with nothing open exactly when whatever a late event finds open is closed by
that event or by a later one of the same day.
-/

import TradingEngine.General.DayRecords
import TradingEngine.General.PositionTracking

namespace DayClosing

open DayRecords PositionTracking

variable {ε σ α κ δ M : Type} [LinearOrder δ] [AddCommGroup M]

/-- How an event changes what is held of its own day; of other days nothing new is held. -/
structure DayBooks (machine : EventMachine ε σ α) (day : ε → δ) (flow : α → κ → M)
    (held : σ → δ → κ → M) : Prop where
  start : ∀ d k, held machine.start d k = 0
  today : ∀ event state k, held (machine.advance state event) (day event) k =
    held state (day event) k + flow (machine.step event state).1 k
  other : ∀ event state d k, day event ≠ d → held state d k = 0 →
    held (machine.advance state event) d k = 0

variable {machine : EventMachine ε σ α} {day : ε → δ} {flow : α → κ → M}
  {held : σ → δ → κ → M} {events : List ε} {d : δ}

/-- What the calls of a day add up to. -/
def dayTotal (machine : EventMachine ε σ α) (day : ε → δ) (flow : α → κ → M) (d : δ)
    (events : List ε) (k : κ) : M :=
  total flow (ofDay day d (machine.calls events)) k

theorem dayTotal_concat (earlier : List ε) (event : ε) (k : κ) :
    dayTotal machine day flow d (earlier ++ [event]) k =
      if day event = d then
        dayTotal machine day flow d earlier k +
          flow (machine.step event (machine.after earlier)).1 k
      else dayTotal machine day flow d earlier k := by
  unfold dayTotal
  rw [EventMachine.calls_concat, ofDay_concat]
  split_ifs
  · exact total_concat _ _ _ _
  · rfl

theorem dayTotal_append_of_ne {upTo later : List ε} (others : ∀ event ∈ later, day event ≠ d)
    (k : κ) :
    dayTotal machine day flow d (upTo ++ later) k = dayTotal machine day flow d upTo k := by
  induction later using List.reverseRecOn with
  | nil => rw [List.append_nil]
  | append_singleton before event ih =>
      obtain ⟨othersBefore, other⟩ := List.forall_mem_append.mp others
      rw [← List.append_assoc, dayTotal_concat, if_neg (other event List.mem_cons_self)]
      exact ih othersBefore

theorem DayBooks.dayTotal_eq (books : DayBooks machine day flow held)
    (ordered : events.Pairwise (fun a b => day a ≤ day b))
    (within : ∀ event ∈ events, day event ≤ d)
    (k : κ) : dayTotal machine day flow d events k = held (machine.after events) d k := by
  induction events using List.reverseRecOn with
  | nil => exact (books.start d k).symm
  | append_singleton earlier event ih =>
      obtain ⟨orderedEarlier, _, before⟩ := List.pairwise_append.mp ordered
      obtain ⟨withinEarlier, withinLast⟩ := List.forall_mem_append.mp within
      have known := ih orderedEarlier withinEarlier
      rw [dayTotal_concat, EventMachine.after_concat, known]
      split_ifs with same
      · subst same
        exact (books.today event _ k).symm
      · have others : ∀ x ∈ earlier, day x ≠ d := by
          intro x member equal
          have past := before x member event List.mem_cons_self
          exact same (le_antisymm (withinLast event List.mem_cons_self) (equal ▸ past))
        have unreached : dayTotal machine day flow d ([] ++ earlier) k = 0 :=
          dayTotal_append_of_ne others k
        rw [List.nil_append, known] at unreached
        rw [unreached, books.other event _ d k same unreached]

theorem DayBooks.dayTotal_append (books : DayBooks machine day flow held) {upTo later : List ε}
    (ordered : (upTo ++ later).Pairwise (fun a b => day a ≤ day b))
    (within : ∀ event ∈ upTo, day event ≤ d) (beyond : ∀ event ∈ later, d < day event) (k : κ) :
    dayTotal machine day flow d (upTo ++ later) k = held (machine.after upTo) d k := by
  rw [dayTotal_append_of_ne (fun event after => (beyond event after).ne')]
  exact books.dayTotal_eq (List.pairwise_append.mp ordered).1 within k

omit [AddCommGroup M] in
theorem exists_split (ordered : events.Pairwise (fun a b => day a ≤ day b)) (d : δ) :
    ∃ upTo later, events = upTo ++ later ∧ (∀ event ∈ upTo, day event ≤ d) ∧
      ∀ event ∈ later, d < day event := by
  induction events with
  | nil =>
      exact ⟨[], [], rfl, fun _ absent => absurd absent List.not_mem_nil,
        fun _ absent => absurd absent List.not_mem_nil⟩
  | cons first rest ih =>
      obtain ⟨before, orderedRest⟩ := List.pairwise_cons.mp ordered
      by_cases within : day first ≤ d
      · obtain ⟨upTo, later, rfl, upToWithin, laterBeyond⟩ := ih orderedRest
        exact ⟨first :: upTo, later, rfl, List.forall_mem_cons.mpr ⟨within, upToWithin⟩,
          laterBeyond⟩
      · refine ⟨[], first :: rest, rfl, fun _ absent => absurd absent List.not_mem_nil, ?_⟩
        have beyond := not_le.mp within
        exact List.forall_mem_cons.mpr ⟨beyond, fun x member => beyond.trans_le (before x member)⟩

/-! ### Late events -/

def Orderly (day : ε → δ) (late : ε → Prop) (events : List ε) : Prop :=
  events.Pairwise (fun a b => day a ≤ day b ∧ (day a = day b → late a → late b))

/-- Every day with a late event ends with nothing open. -/
def FlatDays (machine : EventMachine ε σ α) (day : ε → δ) (late : ε → Prop) (flow : α → κ → M)
    (events : List ε) : Prop :=
  ∀ event ∈ events, late event → ∀ k, dayTotal machine day flow (day event) events k = 0

/-- No late event opens anything. -/
def QuietLate (machine : EventMachine ε σ α) (late : ε → Prop) (quiet : σ → ε → Prop)
    (events : List ε) : Prop :=
  ∀ earlier event later, events = earlier ++ event :: later → late event →
    quiet (machine.after earlier) event

/-- Whatever a late event finds open is closed by it or by a later one of its day. -/
def ClosesLate (machine : EventMachine ε σ α) (day : ε → δ) (late : ε → Prop)
    (held : σ → δ → κ → M) (closes : σ → ε → κ → Prop) (events : List ε) : Prop :=
  ∀ earlier event later, events = earlier ++ event :: later → late event →
    ∀ k, held (machine.after earlier) (day event) k ≠ 0 →
      ∃ between closer rest, event :: later = between ++ closer :: rest ∧
        day closer = day event ∧ closes (machine.after (earlier ++ between)) closer k

/-- What late events open and close. -/
structure Late (machine : EventMachine ε σ α) (day : ε → δ) (late : ε → Prop)
    (held : σ → δ → κ → M) (quiet : σ → ε → Prop) (closes : σ → ε → κ → Prop) : Prop where
  quiet : ∀ event state k, late event → quiet state event → held state (day event) k = 0 →
    held (machine.advance state event) (day event) k = 0
  closes : ∀ event state k, late event → held state (day event) k ≠ 0 →
    (closes state event k ↔ held (machine.advance state event) (day event) k = 0)

variable {late : ε → Prop} {quiet : σ → ε → Prop} {closes : σ → ε → κ → Prop}

omit [LinearOrder δ] in
theorem Late.held_of_unclosed (rules : Late machine day late held quiet closes)
    {earlier run : List ε} {k : κ} (isOpen : held (machine.after earlier) d k ≠ 0)
    (lates : ∀ event ∈ run, day event = d ∧ late event)
    (unclosed : ∀ between closer rest, run = between ++ closer :: rest →
      ¬ closes (machine.after (earlier ++ between)) closer k) :
    held (machine.after (earlier ++ run)) d k ≠ 0 := by
  induction run using List.reverseRecOn with
  | nil => rwa [List.append_nil]
  | append_singleton before event ih =>
      obtain ⟨latesBefore, latesLast⟩ := List.forall_mem_append.mp lates
      obtain ⟨rfl, isLate⟩ := latesLast event List.mem_cons_self
      have stillOpen := ih latesBefore (fun between closer rest split =>
        unclosed between closer (rest ++ [event]) (by rw [split, List.append_assoc]; rfl))
      rw [← List.append_assoc, EventMachine.after_concat]
      exact fun closed => unclosed before event [] rfl
        ((rules.closes event _ k isLate stillOpen).mpr closed)

omit [AddCommGroup M] in
theorem Orderly.exists_last (ordered : Orderly day late events) {event : ε}
    (member : event ∈ events) :
    ∃ before last later, events = before ++ [last] ++ later ∧ day last = day event ∧
      (late event → late last) ∧ (∀ x ∈ before ++ [last], day x ≤ day last) ∧
      ∀ x ∈ later, day last < day x := by
  obtain ⟨upTo, later, rfl, within, beyond⟩ := exists_split (ordered.imp And.left) (day event)
  have reached : event ∈ upTo := by
    rcases List.mem_append.mp member with first | second
    · exact first
    · exact absurd (beyond event second) (lt_irrefl _)
  obtain ⟨before, last, rfl⟩ : ∃ before last, upTo = before ++ [last] :=
    ⟨_, _, (List.dropLast_append_getLast (List.ne_nil_of_mem reached)).symm⟩
  have orderedUpTo := (List.pairwise_append.mp ordered).1
  rcases List.mem_append.mp reached with earlier | itself
  · have following := (List.pairwise_append.mp orderedUpTo).2.2 event earlier last
      List.mem_cons_self
    have same := le_antisymm (within last (List.mem_append_right _ List.mem_cons_self))
      following.1
    rw [← same] at within beyond
    exact ⟨before, last, later, rfl, same, following.2 same.symm, within, beyond⟩
  · cases List.mem_singleton.mp itself
    exact ⟨before, event, later, rfl, rfl, id, within, beyond⟩

theorem flatDays_of_closesLate (books : DayBooks machine day flow held)
    (rules : Late machine day late held quiet closes) (ordered : Orderly day late events)
    (calm : QuietLate machine late quiet events)
    (closing : ClosesLate machine day late held closes events) :
    FlatDays machine day late flow events := by
  intro event member isLate k
  obtain ⟨before, last, later, rfl, sameDay, lates, within, beyond⟩ := ordered.exists_last member
  have lastLate := lates isLate
  have atLast : before ++ [last] ++ later = before ++ last :: later := by
    rw [List.append_assoc]
    rfl
  rw [← sameDay, books.dayTotal_append (ordered.imp And.left) within beyond,
    EventMachine.after_concat]
  by_cases isOpen : held (machine.after before) (day last) k = 0
  · exact rules.quiet last _ k lastLate (calm before last later atLast lastLate) isOpen
  · obtain ⟨between, closer, rest, split, closerDay, closed⟩ :=
      closing before last later atLast lastLate k isOpen
    cases between with
    | nil =>
        cases split
        rw [List.append_nil] at closed
        exact (rules.closes last _ k lastLate isOpen).mp closed
    | cons first others =>
        have after : closer ∈ later := by
          rw [(List.cons.inj split).2]
          exact List.mem_append_right _ List.mem_cons_self
        exact absurd closerDay (beyond closer after).ne'

theorem closesLate_of_flatDays (books : DayBooks machine day flow held)
    (rules : Late machine day late held quiet closes) (ordered : Orderly day late events)
    (flat : FlatDays machine day late flow events) :
    ClosesLate machine day late held closes events := by
  intro earlier event later split isLate k isOpen
  by_contra unclosed
  have member : event ∈ events := split ▸ List.mem_append_right _ List.mem_cons_self
  have total := flat event member isLate k
  subst split
  obtain ⟨_, orderedLater, across⟩ := List.pairwise_append.mp ordered
  obtain ⟨following, orderedRest⟩ := List.pairwise_cons.mp orderedLater
  obtain ⟨mid, rest, rfl, within, beyond⟩ := exists_split (orderedRest.imp And.left) (day event)
  have lates : ∀ x ∈ event :: mid, day x = day event ∧ late x := by
    refine List.forall_mem_cons.mpr ⟨⟨rfl, isLate⟩, fun x inside => ?_⟩
    have after := following x (List.mem_append_left rest inside)
    have same := le_antisymm (within x inside) after.1
    exact ⟨same, after.2 same.symm isLate⟩
  have upToDay : ∀ x ∈ earlier ++ event :: mid, day x ≤ day event :=
    List.forall_mem_append.mpr ⟨fun x before => (across x before event List.mem_cons_self).1,
      fun x inside => (lates x inside).1.le⟩
  have atRest : earlier ++ event :: (mid ++ rest) = earlier ++ event :: mid ++ rest := by
    rw [List.append_assoc]
    rfl
  rw [atRest] at ordered total
  rw [books.dayTotal_append (ordered.imp And.left) upToDay beyond] at total
  refine rules.held_of_unclosed isOpen lates (fun between closer others same closed => ?_) total
  refine unclosed ⟨between, closer, others ++ rest, ?_, ?_, closed⟩
  · rw [← List.cons_append, same, List.append_assoc]
    rfl
  · have among : closer ∈ event :: mid := same ▸ List.mem_append_right _ List.mem_cons_self
    exact (lates closer among).1

/-- In an orderly run without late openings the late days end flat exactly when what a late
event finds open is closed on its day. -/
theorem flatDays_iff (books : DayBooks machine day flow held)
    (rules : Late machine day late held quiet closes) (ordered : Orderly day late events) :
    QuietLate machine late quiet events ∧ FlatDays machine day late flow events ↔
      QuietLate machine late quiet events ∧ ClosesLate machine day late held closes events :=
  and_congr_right (fun calm => ⟨closesLate_of_flatDays books rules ordered,
    flatDays_of_closesLate books rules ordered calm⟩)

end DayClosing
