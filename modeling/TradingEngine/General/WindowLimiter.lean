/-
Limits on the number of admissions in a sliding window.

A limiter that admits only while fewer than `limit` admissions are recent keeps
every window of that width within the limit.  A queue that drops stale times from
its front answers as if it kept them all, as long as time does not run backwards.
-/

import Mathlib.Algebra.Order.Group.Defs
import Mathlib.Algebra.Order.Ring.Int
import Mathlib.Data.List.Basic
import Mathlib.Data.List.Induction
import Mathlib.Data.List.TakeWhile

namespace WindowLimiter

/-- The times that lie less than `width` before `now`. -/
def recent (width now : ℤ) (times : List ℤ) : List ℤ :=
  times.filter (fun time => now - time < width)

/-- Drops stale times from the front. -/
def prune (width now : ℤ) (times : List ℤ) : List ℤ :=
  times.dropWhile (fun time => width ≤ now - time)

variable {width limit now later start : ℤ} {times queue : List ℤ}

theorem prune_cons_of_stale {head : ℤ} (stale : width ≤ now - head) :
    prune width now (head :: times) = prune width now times := by
  unfold prune
  rw [List.dropWhile_cons, if_pos (decide_eq_true stale)]

theorem prune_cons_of_fresh {head : ℤ} (fresh : ¬ width ≤ now - head) :
    prune width now (head :: times) = head :: times := by
  unfold prune
  rw [List.dropWhile_cons, if_neg (by simpa using fresh)]

theorem length_prune_le : (prune width now times).length ≤ times.length :=
  (List.dropWhile_suffix _).length_le

theorem prune_eq_self_iff :
    prune width now times = times ↔ ∀ head ∈ times.head?, now - head < width := by
  cases times with
  | nil => exact iff_of_true rfl nofun
  | cons head rest =>
      have first : (∀ time ∈ (head :: rest).head?, now - time < width) ↔ now - head < width := by
        simp
      rw [first]
      by_cases stale : width ≤ now - head
      · refine iff_of_false (fun kept => ?_) (not_lt.mpr stale)
        rw [prune_cons_of_stale stale] at kept
        have shorter : (prune width now rest).length ≤ rest.length := length_prune_le
        rw [kept] at shorter
        exact absurd shorter (Nat.not_succ_le_self _)
      · exact iff_of_true (prune_cons_of_fresh stale) (not_le.mp stale)

theorem prune_eq_nil (stale : ∀ time ∈ times, width ≤ now - time) : prune width now times = [] :=
  List.dropWhile_eq_nil_iff.mpr (fun time member => decide_eq_true (stale time member))

theorem prune_eq_recent (ordered : times.Pairwise (fun earlier later => earlier ≤ later)) :
    prune width now times = recent width now times := by
  induction times with
  | nil => rfl
  | cons head rest ih =>
      obtain ⟨first, orderedRest⟩ := List.pairwise_cons.mp ordered
      by_cases stale : width ≤ now - head
      · have dropped : ¬ decide (now - head < width) = true := by
          simpa using stale
        rw [prune_cons_of_stale stale, ih orderedRest, recent, recent,
          List.filter_cons, if_neg dropped]
      · have fresh : ∀ time ∈ head :: rest, decide (now - time < width) = true := by
          intro time member
          rw [decide_eq_true_eq]
          rcases List.mem_cons.mp member with rfl | inRest
          · exact not_le.mp stale
          · have after := first time inRest
            omega
        rw [prune_cons_of_fresh stale, recent, List.filter_eq_self.mpr fresh]

theorem prune_prune (forward : now ≤ later) :
    prune width later (prune width now times) = prune width later times := by
  induction times with
  | nil => rfl
  | cons head rest ih =>
      by_cases stale : width ≤ now - head
      · have staleLater : width ≤ later - head := by omega
        rw [prune_cons_of_stale stale, prune_cons_of_stale staleLater]
        exact ih
      · rw [prune_cons_of_fresh stale]

/-- Two queues that prune alike still do after the same admission. -/
theorem prune_append (alike : prune width now times = prune width now queue) (admitted : ℤ)
    (forward : now ≤ later) :
    prune width later (times ++ [admitted]) = prune width later (queue ++ [admitted]) := by
  have early : ∀ kept : List ℤ, prune width later (kept ++ [admitted]) =
      prune width later (prune width now kept ++ [admitted]) := by
    intro kept
    induction kept with
    | nil => rfl
    | cons head rest ih =>
        by_cases stale : width ≤ now - head
        · have staleLater : width ≤ later - head := by omega
          rw [prune_cons_of_stale stale, ← ih]
          exact prune_cons_of_stale staleLater
        · rw [prune_cons_of_fresh stale]
  rw [early times, early queue, alike]

/-! ### Windows -/

/-- Each time was admitted while fewer than `limit` earlier ones were recent. -/
def Throttled (width : ℤ) (limit : ℕ) (times : List ℤ) : Prop :=
  ∀ earlier time later, times = earlier ++ time :: later →
    (recent width time earlier).length < limit

theorem Throttled.nil {limit : ℕ} : Throttled width limit [] := by
  intro earlier time later split
  simp at split

theorem Throttled.append {limit : ℕ} (throttled : Throttled width limit times)
    (room : (recent width now times).length < limit) :
    Throttled width limit (times ++ [now]) := by
  intro earlier time later split
  rcases List.eq_nil_or_concat later with rfl | ⟨front, last, rfl⟩
  · obtain ⟨rfl, same⟩ := List.append_inj' split rfl
    rw [← (List.cons.inj same).1]
    exact room
  · rw [List.concat_eq_append, ← List.cons_append, ← List.append_assoc] at split
    obtain ⟨rfl, _⟩ := List.append_inj' split rfl
    exact throttled earlier time front rfl

/-- No window of that width holds more than `limit` admissions, open on the right or on
the left. -/
theorem Throttled.window_le {limit : ℕ} (throttled : Throttled width limit times)
    (ordered : times.Pairwise (fun earlier later => earlier ≤ later)) (inWindow : ℤ → Prop)
    [DecidablePred inWindow]
    (narrow : ∀ earlier later, inWindow earlier → inWindow later → later - earlier < width) :
    (times.filter (fun time => inWindow time)).length ≤ limit := by
  induction times using List.reverseRecOn with
  | nil => exact Nat.zero_le _
  | append_singleton times time ih =>
      have earlierThrottled : Throttled width limit times := by
        intro earlier found later split
        exact throttled earlier found (later ++ [time]) (by simp [split])
      have earlierOrdered := (List.pairwise_append.mp ordered).1
      have before := ih earlierThrottled earlierOrdered
      rw [List.filter_append, List.filter_singleton]
      by_cases member : inWindow time
      · have room := throttled times time [] rfl
        have within : (times.filter (fun seen => inWindow seen)).length ≤
            (recent width time times).length := by
          apply List.Sublist.length_le
          apply List.monotone_filter_right
          intro seen seenMember
          simp only [decide_eq_true_eq] at seenMember ⊢
          exact narrow seen time seenMember member
        rw [decide_eq_true member, cond_true, List.length_append, List.length_singleton]
        omega
      · rw [decide_eq_false member, cond_false, List.append_nil]
        exact before

end WindowLimiter
