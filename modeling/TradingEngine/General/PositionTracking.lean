/-
Positions that a machine keeps, against the flows of its answers.

A step changes the position of a key by the flow of its answer, less what it loses without
an answer.  The positions are the totals of the flows, all through a run, exactly when no
step of it loses anything.
-/

import TradingEngine.General.EventMachine
import Mathlib.Algebra.BigOperators.Group.List.Basic
import Mathlib.Tactic.Abel

namespace PositionTracking

variable {ε σ α κ M : Type} [AddCommGroup M]

def total (flow : α → κ → M) (calls : List (ε × α)) (k : κ) : M :=
  (calls.map (fun call => flow call.2 k)).sum

theorem total_concat (flow : α → κ → M) (calls : List (ε × α)) (call : ε × α) (k : κ) :
    total flow (calls ++ [call]) k = total flow calls k + flow call.2 k := by
  rw [total, List.map_append, List.sum_append, List.map_singleton, List.sum_singleton]
  rfl

/-- At every point of the run the position of every key is the total of its flows. -/
def Tracks (machine : EventMachine ε σ α) (flow : α → κ → M) (position : σ → κ → M)
    (events : List ε) : Prop :=
  ∀ earlier, earlier <+: events → ∀ k,
    total flow (machine.calls earlier) k = position (machine.after earlier) k

/-- How a step moves the positions; `lost` is what it drops without an answer. -/
structure Books (machine : EventMachine ε σ α) (flow : α → κ → M) (position : σ → κ → M)
    (lost : σ → ε → κ → M) : Prop where
  start : ∀ k, position machine.start k = 0
  step : ∀ event state k, position (machine.advance state event) k =
    position state k - lost state event k + flow (machine.step event state).1 k

variable {machine : EventMachine ε σ α} {flow : α → κ → M} {position : σ → κ → M}
  {lost : σ → ε → κ → M}

theorem tracks_concat (earlier : List ε) (event : ε) :
    Tracks machine flow position (earlier ++ [event]) ↔
      Tracks machine flow position earlier ∧ ∀ k,
        total flow (machine.calls (earlier ++ [event])) k =
          position (machine.after (earlier ++ [event])) k := by
  constructor
  · intro tracks
    exact ⟨fun some_ before => tracks some_ (before.trans (List.prefix_append _ _)),
      tracks _ (List.prefix_refl _)⟩
  · rintro ⟨tracks, now⟩ some_ before
    rcases List.prefix_concat_iff.mp before with rfl | before
    · exact now
    · exact tracks some_ before

theorem Books.step_iff (books : Books machine flow position lost) {earlier : List ε}
    (right : ∀ k, total flow (machine.calls earlier) k = position (machine.after earlier) k)
    (event : ε) :
    (∀ k, total flow (machine.calls (earlier ++ [event])) k =
        position (machine.after (earlier ++ [event])) k) ↔
      ∀ k, lost (machine.after earlier) event k = 0 := by
  apply forall_congr'
  intro k
  rw [EventMachine.calls_concat, total_concat, EventMachine.after_concat, books.step, right k,
    add_left_inj, eq_comm, sub_eq_self]

theorem Books.tracks_iff (books : Books machine flow position lost) {Keeps : σ → ε → Prop}
    (keeps : ∀ earlier event, Keeps (machine.after earlier) event ↔
      ∀ k, lost (machine.after earlier) event k = 0) (events : List ε) :
    Tracks machine flow position events ↔
      EventRun.Admissible machine.advance Keeps machine.start events := by
  induction events using List.reverseRecOn with
  | nil =>
      refine iff_of_true ?_ trivial
      intro earlier before k
      rw [List.prefix_nil.mp before]
      exact (books.start k).symm
  | append_singleton earlier event ih =>
      rw [tracks_concat, EventRun.admissible_append, ih]
      refine and_congr_right (fun admissible => ?_)
      have right := ih.mpr admissible earlier (List.prefix_refl earlier)
      rw [books.step_iff right event, ← keeps]
      exact (and_iff_left trivial).symm

theorem Books.tracks_of_lossless (books : Books machine flow position lost)
    (lossless : ∀ state event k, lost state event k = 0) (events : List ε) :
    Tracks machine flow position events := by
  intro earlier inside
  induction earlier using List.reverseRecOn with
  | nil => exact fun k => (books.start k).symm
  | append_singleton before event ih =>
      have right := ih ((List.prefix_append before [event]).trans inside)
      exact (books.step_iff right event).mpr (lossless _ event)

end PositionTracking
