/-
Guarded attempts.

An attempt ends with a value or an exception.  A guard lists the exceptions that it
catches, and gives a default for them; every other exception escapes.
-/

import Mathlib.Data.List.Basic

namespace TryExcept

variable {ε α : Type} [DecidableEq ε]

def guarded (caught : List ε) (default : α) (attempt : Except ε α) : Except ε α :=
  match attempt with
  | .ok value => .ok value
  | .error exception => if exception ∈ caught then .ok default else .error exception

variable {caught : List ε} {default : α} {exception : ε}

theorem guarded_ok (value : α) : guarded caught default (.ok value) = .ok value :=
  rfl

theorem guarded_of_mem (listed : exception ∈ caught) :
    guarded caught default (.error exception) = .ok default :=
  if_pos listed

theorem guarded_of_notMem (unlisted : exception ∉ caught) :
    guarded caught default (.error exception) = .error exception :=
  if_neg unlisted

/-! ### Sequences -/

section Sequence

variable {ε' β γ : Type} {first : Except ε' β} {next : β → Except ε' γ} {result : γ}

theorem bind_eq_ok_iff :
    (first >>= next) = .ok result ↔ ∃ value, first = .ok value ∧ next value = .ok result := by
  cases first with
  | error exception =>
      refine iff_of_false nofun ?_
      intro ⟨_, found, _⟩
      cases found
  | ok value =>
      constructor
      · intro ok
        exact ⟨value, rfl, ok⟩
      · intro ⟨other, same, ok⟩
        cases same
        exact ok

theorem bind_errors {Holds : ε' → Prop} (ofFirst : ∀ exception, first = .error exception →
    Holds exception) (ofNext : ∀ value exception, next value = .error exception → Holds exception)
    (exception : ε') (failed : (first >>= next) = .error exception) : Holds exception := by
  cases first with
  | error raised =>
      cases failed
      exact ofFirst exception rfl
  | ok value => exact ofNext value exception failed

end Sequence

end TryExcept
