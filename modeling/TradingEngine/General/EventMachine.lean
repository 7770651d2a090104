/-
Machines that answer one event after another.

`calls` pairs every event of a run with its answer.  `keyed` runs one copy of a machine for
each key, all in one dictionary: what it answers to the events of a key is what a single
copy answers when it is fed these events only, however the events are interleaved.
`served` cuts a run of a machine that may raise before its first raising call.
-/

import TradingEngine.General.EventRun
import TradingEngine.General.OrderedDict
import Mathlib.Data.List.Induction
import Mathlib.Data.List.TakeWhile

/-- An answer and a next state for every event. -/
structure EventMachine (ε σ α : Type) where
  start : σ
  step : ε → σ → α × σ

namespace EventMachine

variable {ε σ α κ : Type}

def advance (machine : EventMachine ε σ α) (state : σ) (event : ε) : σ :=
  (machine.step event state).2

def after (machine : EventMachine ε σ α) (events : List ε) : σ :=
  EventRun.run machine.advance machine.start events

def callsFrom (machine : EventMachine ε σ α) : σ → List ε → List (ε × α)
  | _, [] => []
  | state, event :: rest =>
      (event, (machine.step event state).1) ::
        callsFrom machine (machine.step event state).2 rest

def calls (machine : EventMachine ε σ α) (events : List ε) : List (ε × α) :=
  machine.callsFrom machine.start events

variable (machine : EventMachine ε σ α)

@[simp] theorem after_nil : machine.after [] = machine.start :=
  rfl

theorem after_append (earlier later : List ε) :
    machine.after (earlier ++ later) =
      EventRun.run machine.advance (machine.after earlier) later :=
  EventRun.run_append _ _ _

theorem after_concat (earlier : List ε) (event : ε) :
    machine.after (earlier ++ [event]) = machine.advance (machine.after earlier) event :=
  machine.after_append earlier [event]

theorem callsFrom_append (state : σ) (earlier later : List ε) :
    machine.callsFrom state (earlier ++ later) =
      machine.callsFrom state earlier ++
        machine.callsFrom (EventRun.run machine.advance state earlier) later := by
  induction earlier generalizing state with
  | nil => rfl
  | cons event rest ih => exact congrArg (List.cons _) (ih (machine.advance state event))

theorem calls_append (earlier later : List ε) :
    machine.calls (earlier ++ later) =
      machine.calls earlier ++ machine.callsFrom (machine.after earlier) later :=
  machine.callsFrom_append machine.start earlier later

theorem calls_concat (earlier : List ε) (event : ε) :
    machine.calls (earlier ++ [event]) =
      machine.calls earlier ++ [(event, (machine.step event (machine.after earlier)).1)] :=
  machine.calls_append earlier [event]

@[simp] theorem map_fst_calls (events : List ε) :
    (machine.calls events).map Prod.fst = events := by
  induction events using List.reverseRecOn with
  | nil => rfl
  | append_singleton earlier event ih => rw [calls_concat, List.map_append, ih]; rfl

theorem mem_of_mem_calls {events : List ε} {call : ε × α}
    (member : call ∈ machine.calls events) : call.1 ∈ events := by
  rw [← machine.map_fst_calls events]
  exact List.mem_map_of_mem member

theorem calls_isPrefix {earlier events : List ε} (before : earlier <+: events) :
    machine.calls earlier <+: machine.calls events := by
  obtain ⟨later, rfl⟩ := before
  rw [calls_append]
  exact List.prefix_append _ _

theorem exists_state_of_mem_calls {events : List ε} {call : ε × α}
    (member : call ∈ machine.calls events) :
    ∃ state, (machine.step call.1 state).1 = call.2 := by
  induction events using List.reverseRecOn with
  | nil => exact absurd member List.not_mem_nil
  | append_singleton earlier event ih =>
      rw [calls_concat] at member
      rcases List.mem_append.mp member with before | last
      · exact ih before
      · rw [List.mem_singleton.mp last]
        exact ⟨_, rfl⟩

theorem forall_mem_calls_iff {Holds : ε × α → Prop} {events : List ε} :
    (∀ call ∈ machine.calls events, Holds call) ↔
      ∀ earlier event later, events = earlier ++ event :: later →
        Holds (event, (machine.step event (machine.after earlier)).1) := by
  constructor
  · rintro holds earlier event later rfl
    apply holds
    rw [calls_append]
    exact List.mem_append_right _ List.mem_cons_self
  · intro holds
    induction events using List.reverseRecOn with
    | nil => exact fun call member => absurd member List.not_mem_nil
    | append_singleton before last ih =>
        rw [calls_concat]
        refine List.forall_mem_append.mpr ⟨ih ?_, List.forall_mem_singleton.mpr ?_⟩
        · rintro earlier event later rfl
          exact holds earlier event (later ++ [last]) (List.append_assoc _ _ _)
        · exact holds before last [] rfl

theorem calls_of_isPrefix {events : List ε} {calls : List (ε × α)}
    (before : calls <+: machine.calls events) :
    calls.map Prod.fst <+: events ∧ machine.calls (calls.map Prod.fst) = calls := by
  have events_before : calls.map Prod.fst <+: events := by
    have mapped := before.map Prod.fst
    rwa [map_fst_calls] at mapped
  refine ⟨events_before, ?_⟩
  have alike := machine.calls_isPrefix events_before
  have sameLength : (machine.calls (calls.map Prod.fst)).length = calls.length := by
    rw [← List.length_map Prod.fst, map_fst_calls, List.length_map]
  exact (List.prefix_of_prefix_length_le alike before sameLength.le).eq_of_length sameLength

theorem after_take_succ {events : List ε} {i : ℕ} {event : ε}
    (found : events[i]? = some event) :
    machine.after (events.take (i + 1)) =
      machine.advance (machine.after (events.take i)) event := by
  rw [List.take_add_one, found]
  exact machine.after_concat _ _

theorem mem_calls_of_getElem? {events : List ε} {i : ℕ} {event : ε}
    (found : events[i]? = some event) :
    (event, (machine.step event (machine.after (events.take i))).1) ∈ machine.calls events := by
  have upTo : events.take (i + 1) = events.take i ++ [event] := by
    rw [List.take_add_one, found]
    rfl
  have before := machine.calls_isPrefix (List.take_prefix (i + 1) events)
  rw [upTo, calls_concat] at before
  exact before.subset (List.mem_append_right _ List.mem_cons_self)

theorem after_invariant (Holds : σ → Prop) (start : Holds machine.start)
    (keeps : ∀ event state, Holds state → Holds (machine.advance state event))
    (events : List ε) : Holds (machine.after events) := by
  have admissible : EventRun.Admissible machine.advance (fun _ _ => True) machine.start events :=
    EventRun.admissible_of_forall (fun _ _ => trivial) _ _
  exact EventRun.run_invariant Holds (fun state event _ holds => keeps event state holds)
    admissible start

/-! ### One machine for each key -/

section Keyed

variable [DecidableEq κ] (key : ε → κ)

/-- The state of a key; a key without one has the start state. -/
def stateOf (states : OrderedDict κ σ) (k : κ) : σ :=
  (states.get? k).getD machine.start

def keyed : EventMachine ε (OrderedDict κ σ) α :=
  { start := OrderedDict.empty
    step := fun event states =>
      let answer := machine.step event (machine.stateOf states (key event))
      (answer.1, states.insert (key event) answer.2) }

theorem stateOf_advance_keyed (states : OrderedDict κ σ) (event : ε) (k : κ) :
    machine.stateOf ((machine.keyed key).advance states event) k =
      if k = key event then machine.advance (machine.stateOf states k) event
      else machine.stateOf states k := by
  change ((states.insert (key event) _).get? k).getD machine.start = _
  rw [OrderedDict.getD_get?_insert]
  split_ifs with same
  · rw [same]
    rfl
  · rfl

theorem stateOf_after_keyed (events : List ε) (k : κ) :
    machine.stateOf ((machine.keyed key).after events) k =
      machine.after (events.filter (fun event => key event = k)) := by
  induction events using List.reverseRecOn with
  | nil => rfl
  | append_singleton earlier event ih =>
      rw [after_concat, stateOf_advance_keyed, List.filter_append, ih]
      by_cases same : k = key event
      · rw [if_pos same, List.filter_singleton, decide_eq_true same.symm, after_append]
        rfl
      · rw [if_neg same, List.filter_singleton, decide_eq_false (Ne.symm same)]
        exact congrArg machine.after (List.append_nil _).symm

theorem filter_calls_keyed (events : List ε) (k : κ) :
    ((machine.keyed key).calls events).filter (fun call => key call.1 = k) =
      machine.calls (events.filter (fun event => key event = k)) := by
  induction events using List.reverseRecOn with
  | nil => rfl
  | append_singleton earlier event ih =>
      rw [calls_concat, List.filter_append, List.filter_append, ih]
      by_cases same : key event = k
      · rw [List.filter_singleton, List.filter_singleton, decide_eq_true same, cond_true,
          cond_true, calls_concat, ← stateOf_after_keyed, ← same]
        rfl
      · rw [List.filter_singleton, List.filter_singleton, decide_eq_false same, cond_false,
          cond_false, List.append_nil, List.append_nil]

theorem filter_calls_keyed_filter (events : List ε) (k : κ) :
    ((machine.keyed key).calls events).filter (fun call => key call.1 = k) =
      (machine.keyed key).calls (events.filter (fun event => key event = k)) := by
  have alone := machine.filter_calls_keyed key (events.filter (fun event => key event = k)) k
  rw [List.filter_filter, List.filter_eq_self.mpr] at alone
  · rw [filter_calls_keyed, alone]
    simp only [Bool.and_self]
  · intro call member
    exact (List.mem_filter.mp (mem_of_mem_calls _ member)).2

/-! ### What the calls emit -/

variable {β : Type} (emits : α → List β) (owner : β → κ)

def emitted (calls : List (ε × α)) : List (ε × β) :=
  calls.flatMap (fun call => (emits call.2).map (Prod.mk call.1))

variable {key emits owner}

theorem filter_emitted {calls : List (ε × α)}
    (owned : ∀ call ∈ calls, ∀ x ∈ emits call.2, owner x = key call.1) (k : κ) :
    (emitted emits calls).filter (fun pair => owner pair.2 = k) =
      emitted emits (calls.filter (fun call => key call.1 = k)) := by
  induction calls with
  | nil => rfl
  | cons call rest ih =>
      obtain ⟨headOwned, restOwned⟩ := List.forall_mem_cons.mp owned
      have restKept := ih restOwned
      rw [emitted] at restKept
      rw [emitted, List.flatMap_cons, List.filter_append, restKept]
      by_cases same : key call.1 = k
      · have headKept : ((emits call.2).map (Prod.mk call.1)).filter
            (fun pair => owner pair.2 = k) = (emits call.2).map (Prod.mk call.1) := by
          refine List.filter_eq_self.mpr (List.forall_mem_map.mpr ?_)
          exact fun x member => decide_eq_true ((headOwned x member).trans same)
        rw [headKept, List.filter_cons, if_pos (decide_eq_true same)]
        rfl
      · have headLost : ((emits call.2).map (Prod.mk call.1)).filter
            (fun pair => owner pair.2 = k) = [] := by
          refine List.filter_eq_nil_iff.mpr (List.forall_mem_map.mpr ?_)
          intro x member owns
          exact same ((headOwned x member).symm.trans (of_decide_eq_true owns))
        rw [headLost, List.filter_cons, if_neg (fun kept => same (of_decide_eq_true kept))]
        rfl

theorem filter_emitted_keyed
    (owned : ∀ event state, ∀ x ∈ emits (machine.step event state).1, owner x = key event)
    (events : List ε) (k : κ) :
    (emitted emits ((machine.keyed key).calls events)).filter (fun pair => owner pair.2 = k) =
      emitted emits ((machine.keyed key).calls (events.filter (fun event => key event = k))) := by
  have callsOwned : ∀ call ∈ (machine.keyed key).calls events,
      ∀ x ∈ emits call.2, owner x = key call.1 := by
    intro call member
    obtain ⟨states, answered⟩ := exists_state_of_mem_calls _ member
    rw [← answered]
    exact owned call.1 (machine.stateOf states (key call.1))
  rw [filter_emitted callsOwned, filter_calls_keyed_filter]

end Keyed

/-! ### Machines that may raise -/

section Raising

variable {ξ β : Type} (raising : EventMachine ε σ (Except ξ β))

/-- The events before the first call that raises. -/
def served (events : List ε) : List ε :=
  ((raising.calls events).takeWhile (fun call => call.2.isOk)).map Prod.fst

theorem isOk_of_mem_calls_served {events : List ε} {call : ε × Except ξ β}
    (member : call ∈ raising.calls (raising.served events)) : call.2.isOk = true := by
  rw [served, (raising.calls_of_isPrefix (List.takeWhile_prefix _)).2] at member
  exact List.all_eq_true.mp List.all_takeWhile call member

theorem served_of_isOk {events : List ε}
    (returned : ∀ call ∈ raising.calls events, call.2.isOk = true) :
    raising.served events = events := by
  rw [served, List.takeWhile_eq_self_iff.mpr returned]
  exact raising.map_fst_calls events

end Raising

end EventMachine
