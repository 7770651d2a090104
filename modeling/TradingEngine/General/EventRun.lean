/-
Runs of a system over a list of events.

`run step start events` is the state after the events in order.  A run is
admissible when every event is allowed in the state before it.  The rules lift
what one allowed step keeps to whole runs.
-/

import Mathlib.Data.List.Basic

namespace EventRun

variable {σ ε : Type}

def run (step : σ → ε → σ) (start : σ) (events : List ε) : σ :=
  events.foldl step start

def Admissible (step : σ → ε → σ) (Allowed : σ → ε → Prop) (start : σ) : List ε → Prop
  | [] => True
  | event :: rest => Allowed start event ∧ Admissible step Allowed (step start event) rest

variable {step : σ → ε → σ} {Allowed : σ → ε → Prop}

instance decidableAdmissible [∀ state event, Decidable (Allowed state event)] (start : σ) :
    (events : List ε) → Decidable (Admissible step Allowed start events)
  | [] => .isTrue trivial
  | event :: rest =>
      @instDecidableAnd _ _ (inferInstanceAs (Decidable (Allowed start event)))
        (decidableAdmissible (step start event) rest)

@[simp] theorem run_nil (start : σ) : run step start [] = start :=
  rfl

@[simp] theorem run_cons (start : σ) (event : ε) (rest : List ε) :
    run step start (event :: rest) = run step (step start event) rest :=
  rfl

theorem run_append (start : σ) (earlier later : List ε) :
    run step start (earlier ++ later) = run step (run step start earlier) later :=
  List.foldl_append

theorem admissible_append (start : σ) (earlier later : List ε) :
    Admissible step Allowed start (earlier ++ later) ↔
      Admissible step Allowed start earlier ∧
        Admissible step Allowed (run step start earlier) later := by
  induction earlier generalizing start with
  | nil => simp [Admissible]
  | cons event rest ih => simp [Admissible, ih, and_assoc]

theorem admissible_congr {Other : σ → ε → Prop}
    (same : ∀ state event, Allowed state event ↔ Other state event) (start : σ)
    (events : List ε) :
    Admissible step Allowed start events ↔ Admissible step Other start events := by
  induction events generalizing start with
  | nil => exact Iff.rfl
  | cons event rest ih => exact and_congr (same start event) (ih (step start event))

theorem Admissible.and {Other : σ → ε → Prop} {start : σ} {events : List ε}
    (left : Admissible step Allowed start events) (right : Admissible step Other start events) :
    Admissible step (fun state event => Allowed state event ∧ Other state event) start
      events := by
  induction events generalizing start with
  | nil => trivial
  | cons event rest ih => exact ⟨⟨left.1, right.1⟩, ih left.2 right.2⟩

theorem Admissible.of_append {start : σ} {earlier later : List ε}
    (admissible : Admissible step Allowed start (earlier ++ later)) :
    Admissible step Allowed start earlier :=
  ((admissible_append start earlier later).mp admissible).1

theorem admissible_of_forall (allowed : ∀ state event, Allowed state event) (start : σ)
    (events : List ε) : Admissible step Allowed start events := by
  induction events generalizing start with
  | nil => trivial
  | cons event rest ih => exact ⟨allowed start event, ih (step start event)⟩

theorem run_invariant (Holds : σ → Prop)
    (keeps : ∀ state event, Allowed state event → Holds state → Holds (step state event))
    {start : σ} {events : List ε} (admissible : Admissible step Allowed start events)
    (initial : Holds start) : Holds (run step start events) := by
  induction events generalizing start with
  | nil => exact initial
  | cons event rest ih =>
      obtain ⟨allowed, later⟩ := admissible
      exact ih later (keeps start event allowed initial)

theorem run_simulation {τ : Type} {concrete : τ → ε → τ} (Related : τ → σ → Prop)
    (keeps : ∀ state abstract event, Allowed abstract event → Related state abstract →
      Related (concrete state event) (step abstract event))
    {state : τ} {start : σ} {events : List ε}
    (admissible : Admissible step Allowed start events) (initial : Related state start) :
    Related (run concrete state events) (run step start events) := by
  induction events generalizing state start with
  | nil => exact initial
  | cons event rest ih =>
      obtain ⟨allowed, later⟩ := admissible
      exact ih later (keeps state start event allowed initial)

/-- A reflexive and transitive relation of every allowed step to the state before it
relates the two ends of an admissible run. -/
theorem run_related (Related : σ → σ → Prop) (refl : ∀ state, Related state state)
    (trans : ∀ a b c, Related a b → Related b c → Related a c) (Holds : σ → Prop)
    (keeps : ∀ state event, Allowed state event → Holds state →
      Holds (step state event) ∧ Related state (step state event))
    {start : σ} {events : List ε} (admissible : Admissible step Allowed start events)
    (initial : Holds start) : Related start (run step start events) := by
  induction events generalizing start with
  | nil => exact refl start
  | cons event rest ih =>
      obtain ⟨allowed, later⟩ := admissible
      obtain ⟨holds, related⟩ := keeps start event allowed initial
      exact trans _ _ _ related (ih later holds)

end EventRun
