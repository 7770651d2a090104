/-
Logs of spans that are open one at a time.

What is open was opened after everything in the log had finished, and an entry joins the
log with the moment it was opened and a moment no earlier than now.  So the log stays in
order, and its spans do not overlap.
-/

import Mathlib.Data.List.Pairwise
import Mathlib.Order.Lattice

namespace SpanLog

variable {α τ : Type} [LinearOrder τ] {start finish : α → τ} {log : List α} {held : Option τ}
  {now : τ}

/-- A log of finished spans and the moment at which the open one was opened. -/
structure Sequential (start finish : α → τ) (log : List α) (held : Option τ) (now : τ) :
    Prop where
  forward : ∀ entry ∈ log, start entry ≤ finish entry
  apart : log.Pairwise (fun earlier later => finish earlier ≤ start later)
  finished : ∀ entry ∈ log, finish entry ≤ now
  opened : ∀ began ∈ held, began ≤ now
  heldAfter : ∀ began ∈ held, ∀ entry ∈ log, finish entry ≤ began

namespace Sequential

theorem empty (start finish : α → τ) (now : τ) : Sequential start finish [] none now where
  forward := fun _entry member => absurd member List.not_mem_nil
  apart := List.Pairwise.nil
  finished := fun _entry member => absurd member List.not_mem_nil
  opened := fun _began open_ => absurd open_ (Option.not_mem_none _)
  heldAfter := fun _began open_ => absurd open_ (Option.not_mem_none _)

variable (sequential : Sequential start finish log held now)
include sequential

theorem wait {later : τ} (order : now ≤ later) : Sequential start finish log held later where
  forward := sequential.forward
  apart := sequential.apart
  finished := fun entry member => le_trans (sequential.finished entry member) order
  opened := fun began open_ => le_trans (sequential.opened began open_) order
  heldAfter := sequential.heldAfter

theorem drop : Sequential start finish log none now where
  forward := sequential.forward
  apart := sequential.apart
  finished := sequential.finished
  opened := fun _began open_ => absurd open_ (Option.not_mem_none _)
  heldAfter := fun _began open_ => absurd open_ (Option.not_mem_none _)

theorem enter {date : τ} (order : now ≤ date) :
    Sequential start finish log (some date) date where
  forward := sequential.forward
  apart := sequential.apart
  finished := fun entry member => le_trans (sequential.finished entry member) order
  opened := by
    intro began open_
    cases open_
    exact le_refl date
  heldAfter := by
    intro began open_ entry member
    cases open_
    exact le_trans (sequential.finished entry member) order

theorem close {entry : α} (began : held = some (start entry)) (order : now ≤ finish entry) :
    Sequential start finish (log ++ [entry]) none (finish entry) where
  forward := by
    intro other member
    rcases List.mem_append.mp member with old | new
    · exact sequential.forward other old
    · cases List.mem_singleton.mp new
      exact le_trans (sequential.opened _ began) order
  apart := by
    apply List.pairwise_append.mpr
    refine ⟨sequential.apart, List.pairwise_singleton _ _, ?_⟩
    intro earlier old later new
    cases List.mem_singleton.mp new
    exact sequential.heldAfter _ began earlier old
  finished := by
    intro other member
    rcases List.mem_append.mp member with old | new
    · exact le_trans (sequential.finished other old) order
    · cases List.mem_singleton.mp new
      exact le_refl _
  opened := fun _began open_ => absurd open_ (Option.not_mem_none _)
  heldAfter := fun _began open_ => absurd open_ (Option.not_mem_none _)

end Sequential

end SpanLog
