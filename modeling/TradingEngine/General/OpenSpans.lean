/-
Spans of a run over which something is open.

`isOpen i` says whether it is open after `i` steps, and `openedAt isOpen i` is the step
that opened what is open then.
-/

namespace OpenSpans

variable {isOpen : Nat → Bool} {i s : Nat}

def openedAt (isOpen : Nat → Bool) : Nat → Option Nat
  | 0 => none
  | i + 1 =>
      if isOpen (i + 1) then
        if isOpen i then openedAt isOpen i else some i
      else none

theorem openedAt_succ_of_closed (closed : isOpen (i + 1) = false) :
    openedAt isOpen (i + 1) = none := by
  unfold openedAt
  rw [closed, if_neg Bool.false_ne_true]

theorem openedAt_succ_of_opened (before : isOpen i = false) (opened : isOpen (i + 1) = true) :
    openedAt isOpen (i + 1) = some i := by
  unfold openedAt
  rw [opened, before, if_pos rfl, if_neg Bool.false_ne_true]

theorem openedAt_succ_of_kept (before : isOpen i = true) (kept : isOpen (i + 1) = true) :
    openedAt isOpen (i + 1) = openedAt isOpen i := by
  rw [openedAt, kept, before, if_pos rfl, if_pos rfl]

end OpenSpans
