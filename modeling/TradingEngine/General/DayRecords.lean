/-
Records of single days in a run over many days.

A machine keeps the day it is in and starts afresh when an event of another day comes.
When the events come in the order of their days, what a state shows of the calls of its own
day, extended call by call, is what holds of the calls of every day.
-/

import TradingEngine.General.EventMachine

namespace DayRecords

variable {δ ε σ α : Type} [LinearOrder δ]

def ofDay (day : ε → δ) (d : δ) (calls : List (ε × α)) : List (ε × α) :=
  calls.filter (fun call => day call.1 = d)

theorem ofDay_concat (day : ε → δ) (d : δ) (calls : List (ε × α)) (call : ε × α) :
    ofDay day d (calls ++ [call]) =
      if day call.1 = d then ofDay day d calls ++ [call] else ofDay day d calls := by
  unfold ofDay
  rw [List.filter_append, List.filter_singleton]
  by_cases same : day call.1 = d
  · rw [decide_eq_true same, if_pos same, cond_true]
  · rw [decide_eq_false same, if_neg same, cond_false, List.append_nil]

/-- What a state shows of the calls of its day. -/
structure Shown (machine : EventMachine ε σ α) (day : ε → δ) (current : σ → Option δ)
    (Shows : σ → List (ε × α) → Prop) : Prop where
  start : current machine.start = none
  dated : ∀ event state, current (machine.advance state event) = some (day event)
  opens : ∀ event state, current state ≠ some (day event) →
    Shows (machine.advance state event) [(event, (machine.step event state).1)]
  extends_ : ∀ event state record, current state = some (day event) → Shows state record →
    Shows (machine.advance state event) (record ++ [(event, (machine.step event state).1)])

variable {machine : EventMachine ε σ α} {day : ε → δ} {current : σ → Option δ}
  {Shows : σ → List (ε × α) → Prop} {events : List ε}

omit [LinearOrder δ] in
theorem Shown.current_after (shown : Shown machine day current Shows) {d : δ}
    (today : current (machine.after events) = some d) : ∃ event ∈ events, day event = d := by
  induction events using List.reverseRecOn with
  | nil =>
      rw [EventMachine.after_nil, shown.start] at today
      cases today
  | append_singleton earlier event _ =>
      rw [EventMachine.after_concat, shown.dated] at today
      exact ⟨event, List.mem_append_right earlier List.mem_cons_self, Option.some.inj today⟩

theorem Shown.ofDay_of_later (shown : Shown machine day current Shows)
    (ordered : events.Pairwise (fun a b => day a ≤ day b)) {d : δ}
    (later : ∀ today, current (machine.after events) = some today → today < d) :
    ofDay day d (machine.calls events) = [] := by
  induction events using List.reverseRecOn with
  | nil => rfl
  | append_singleton earlier event ih =>
      obtain ⟨orderedEarlier, _, before⟩ := List.pairwise_append.mp ordered
      rw [EventMachine.after_concat, shown.dated] at later
      have beforeDay : day event < d := later (day event) rfl
      rw [EventMachine.calls_concat, ofDay_concat, if_neg beforeDay.ne]
      apply ih orderedEarlier
      intro today reached
      obtain ⟨last, member, rfl⟩ := shown.current_after reached
      exact lt_of_le_of_lt (before last member event List.mem_cons_self) beforeDay

theorem Shown.today (shown : Shown machine day current Shows)
    (ordered : events.Pairwise (fun a b => day a ≤ day b)) {d : δ}
    (today : current (machine.after events) = some d) :
    Shows (machine.after events) (ofDay day d (machine.calls events)) := by
  induction events using List.reverseRecOn with
  | nil =>
      rw [EventMachine.after_nil, shown.start] at today
      cases today
  | append_singleton earlier event ih =>
      obtain ⟨orderedEarlier, _, before⟩ := List.pairwise_append.mp ordered
      rw [EventMachine.after_concat, shown.dated] at today
      cases today
      rw [EventMachine.after_concat, EventMachine.calls_concat, ofDay_concat, if_pos rfl]
      by_cases same : current (machine.after earlier) = some (day event)
      · exact shown.extends_ event _ _ same (ih orderedEarlier same)
      · rw [shown.ofDay_of_later orderedEarlier, List.nil_append]
        · exact shown.opens event _ same
        · intro last reached
          obtain ⟨other, member, rfl⟩ := shown.current_after reached
          exact lt_of_le_of_ne (before other member event List.mem_cons_self)
            (fun equal => same (reached.trans (congrArg some equal)))

theorem Shown.ofDay (shown : Shown machine day current Shows)
    (ordered : events.Pairwise (fun a b => day a ≤ day b)) (d : δ) :
    ofDay day d (machine.calls events) = [] ∨
      ∃ state, Shows state (DayRecords.ofDay day d (machine.calls events)) := by
  induction events using List.reverseRecOn with
  | nil => exact Or.inl rfl
  | append_singleton earlier event ih =>
      by_cases same : day event = d
      · right
        refine ⟨machine.after (earlier ++ [event]), shown.today ordered ?_⟩
        rw [EventMachine.after_concat, shown.dated, same]
      · rw [EventMachine.calls_concat, ofDay_concat, if_neg same]
        exact ih (List.pairwise_append.mp ordered).1

/-! ### Answers that the day decides -/

/-- A state that tracks the calls of its day, and answers every event as they tell. -/
structure Answering (machine : EventMachine ε σ α) (day : ε → δ) (current : σ → Option δ)
    (Tracks : σ → List (ε × α) → Prop) (answerTo : List (ε × α) → ε → α) : Prop where
  start : current machine.start = none
  dated : ∀ event state, current (machine.advance state event) = some (day event)
  opens : ∀ event state, current state ≠ some (day event) →
    (machine.step event state).1 = answerTo [] event ∧
      Tracks (machine.advance state event) [(event, answerTo [] event)]
  extends_ : ∀ event state record, current state = some (day event) → Tracks state record →
    (machine.step event state).1 = answerTo record event ∧
      Tracks (machine.advance state event) (record ++ [(event, answerTo record event)])

/-- Every call of the record is answered as the calls before it tell. -/
def Answered (answerTo : List (ε × α) → ε → α) (record : List (ε × α)) : Prop :=
  ∀ earlier event answer, earlier ++ [(event, answer)] <+: record → answer = answerTo earlier event

theorem answered_nil (answerTo : List (ε × α) → ε → α) : Answered answerTo [] := by
  intro earlier event answer before
  exact absurd (List.prefix_nil.mp before)
    (List.append_ne_nil_of_right_ne_nil earlier (List.cons_ne_nil _ _))

theorem Answered.concat {answerTo : List (ε × α) → ε → α} {record : List (ε × α)}
    (answered : Answered answerTo record) (event : ε) :
    Answered answerTo (record ++ [(event, answerTo record event)]) := by
  intro earlier last answer before
  rcases List.prefix_concat_iff.mp before with whole | inside
  · obtain ⟨same, final⟩ := List.append_inj' whole rfl
    cases final
    rw [same]
  · exact answered earlier last answer inside

omit [LinearOrder δ] in
theorem Answering.shown {Tracks : σ → List (ε × α) → Prop} {answerTo : List (ε × α) → ε → α}
    (answering : Answering machine day current Tracks answerTo) :
    Shown machine day current
      (fun state record => Tracks state record ∧ Answered answerTo record) where
  start := answering.start
  dated := answering.dated
  opens := by
    intro event state other
    obtain ⟨answer, tracks⟩ := answering.opens event state other
    rw [answer]
    exact ⟨tracks, (answered_nil answerTo).concat event⟩
  extends_ := by
    intro event state record same ⟨tracked, answered⟩
    obtain ⟨answer, tracks⟩ := answering.extends_ event state record same tracked
    rw [answer]
    exact ⟨tracks, answered.concat event⟩

/-! ### Answers that the days before decide too -/

variable {γ : Type}

def before (day : ε → δ) (d : δ) (events : List ε) : List ε :=
  events.filter (fun event => day event < d)

/-- A state that also carries something of the days before into a new day; what it carries of
them is `context`. -/
structure AnsweringAfter (machine : EventMachine ε σ α) (day : ε → δ) (current : σ → Option δ)
    (context : List ε → γ) (Tracks : γ → σ → List (ε × α) → Prop)
    (answerTo : γ → List (ε × α) → ε → α) : Prop where
  start : current machine.start = none
  dated : ∀ event state, current (machine.advance state event) = some (day event)
  opens : ∀ earlier event, current (machine.after earlier) ≠ some (day event) →
    (machine.step event (machine.after earlier)).1 = answerTo (context earlier) [] event ∧
      Tracks (context earlier) (machine.advance (machine.after earlier) event)
        [(event, answerTo (context earlier) [] event)]
  extends_ : ∀ carried event state record, current state = some (day event) →
    Tracks carried state record →
    (machine.step event state).1 = answerTo carried record event ∧
      Tracks carried (machine.advance state event)
        (record ++ [(event, answerTo carried record event)])

section After

variable {context : List ε → γ} {Tracks : γ → σ → List (ε × α) → Prop}
  {answerTo : γ → List (ε × α) → ε → α}

omit [LinearOrder δ] in
theorem AnsweringAfter.dates (answering :
    AnsweringAfter machine day current context Tracks answerTo) :
    Shown machine day current (fun _state _record => True) where
  start := answering.start
  dated := answering.dated
  opens := fun _event _state _other => trivial
  extends_ := fun _event _state _record _same _shows => trivial

theorem AnsweringAfter.before_eq_self
    (answering : AnsweringAfter machine day current context Tracks answerTo) {event : ε}
    (ordered : (events ++ [event]).Pairwise (fun a b => day a ≤ day b))
    (other : current (machine.after events) ≠ some (day event)) :
    ofDay day (day event) (machine.calls events) = [] ∧
      before day (day event) events = events := by
  obtain ⟨orderedEarlier, _, behind⟩ := List.pairwise_append.mp ordered
  have none_ : ofDay day (day event) (machine.calls events) = [] := by
    apply answering.dates.ofDay_of_later orderedEarlier
    intro last reached
    obtain ⟨latest, member, rfl⟩ := answering.dates.current_after reached
    exact lt_of_le_of_ne (behind latest member event List.mem_cons_self)
      (fun equal => other (reached.trans (congrArg some equal)))
  refine ⟨none_, List.filter_eq_self.mpr ?_⟩
  intro earlier member
  refine decide_eq_true (lt_of_le_of_ne (behind earlier member event List.mem_cons_self) ?_)
  intro same
  rw [← machine.map_fst_calls events] at member
  obtain ⟨call, called, rfl⟩ := List.mem_map.mp member
  exact (List.filter_eq_nil_iff.mp none_) call called (decide_eq_true same)

theorem AnsweringAfter.today
    (answering : AnsweringAfter machine day current context Tracks answerTo)
    (ordered : events.Pairwise (fun a b => day a ≤ day b)) {d : δ}
    (today : current (machine.after events) = some d) :
    Tracks (context (before day d events)) (machine.after events)
        (ofDay day d (machine.calls events)) ∧
      Answered (answerTo (context (before day d events))) (ofDay day d (machine.calls events)) := by
  induction events using List.reverseRecOn with
  | nil =>
      rw [EventMachine.after_nil, answering.start] at today
      cases today
  | append_singleton earlier event ih =>
      rw [EventMachine.after_concat, answering.dated] at today
      cases today
      have unchanged : before day (day event) (earlier ++ [event]) =
          before day (day event) earlier := by
        unfold before
        rw [List.filter_append, List.filter_singleton, decide_eq_false (lt_irrefl _), cond_false,
          List.append_nil]
      rw [unchanged, EventMachine.after_concat, EventMachine.calls_concat, ofDay_concat,
        if_pos rfl]
      by_cases same : current (machine.after earlier) = some (day event)
      · obtain ⟨tracks, answered⟩ := ih (List.pairwise_append.mp ordered).1 same
        obtain ⟨answer, tracked⟩ := answering.extends_ _ event _ _ same tracks
        rw [answer]
        exact ⟨tracked, answered.concat event⟩
      · obtain ⟨none_, all⟩ := answering.before_eq_self ordered same
        obtain ⟨answer, tracked⟩ := answering.opens earlier event same
        rw [none_, all, List.nil_append, answer]
        exact ⟨tracked, (answered_nil _).concat event⟩

theorem AnsweringAfter.answered
    (answering : AnsweringAfter machine day current context Tracks answerTo)
    (ordered : events.Pairwise (fun a b => day a ≤ day b)) (d : δ) :
    Answered (answerTo (context (before day d events))) (ofDay day d (machine.calls events)) := by
  induction events using List.reverseRecOn with
  | nil => exact answered_nil _
  | append_singleton earlier event ih =>
      by_cases same : day event = d
      · subst same
        refine (answering.today ordered ?_).2
        rw [EventMachine.after_concat, answering.dated]
      · obtain ⟨orderedEarlier, _, behind⟩ := List.pairwise_append.mp ordered
        rw [EventMachine.calls_concat, ofDay_concat, if_neg same]
        by_cases earlierDay : day event < d
        · -- The run has not reached the day.
          rw [answering.dates.ofDay_of_later orderedEarlier]
          · exact answered_nil _
          · intro last reached
            obtain ⟨latest, member, rfl⟩ := answering.dates.current_after reached
            exact lt_of_le_of_lt (behind latest member event List.mem_cons_self) earlierDay
        · have unchanged : before day d (earlier ++ [event]) = before day d earlier := by
            unfold before
            rw [List.filter_append, List.filter_singleton, decide_eq_false earlierDay, cond_false,
              List.append_nil]
          rw [unchanged]
          exact ih orderedEarlier

end After

end DayRecords
