/-
The close history and Wilder's RSI of the MA Pullback strategy.

The deployed replay and the reference strategy keep the same averages and the
same bounded history of closes; they differ only in how the bound is written,
so the bound is an argument here.
-/

import TradingEngine.General.WilderAverage
import Mathlib.Order.Lattice

namespace TradingEngine

variable {K : Type} [Field K] [LinearOrder K]

structure RsiState (K : Type) where
  avgGain : K
  avgLoss : K
  closeHistory : List K
deriving DecidableEq

namespace RsiState

def start : RsiState K :=
  { avgGain := 0
    avgLoss := 0
    closeHistory := [] }

/-- Wilder's smoothing of the gains, or of the losses.  The length of the close
history decides between raw sums, the seeding bar and the recursive average. -/
def smooth (rsiPeriod historyLength : ℕ) (average change : K) : K :=
  if historyLength < rsiPeriod then average + change
  else if historyLength = rsiPeriod then (average + change) / rsiPeriod
  else (average * (rsiPeriod - 1) + change) / rsiPeriod

/-- One close: the averages are updated from the last stored close, then the
close is appended and the oldest one dropped beyond the bound. -/
def observe (rsiPeriod historyBound : ℕ) (close : K) (state : RsiState K) : RsiState K :=
  let history := state.closeHistory ++ [close]
  let kept := if historyBound < history.length then history.tail else history
  match state.closeHistory.getLast? with
  | none => { state with closeHistory := kept }
  | some previous =>
      let change := close - previous
      { avgGain := smooth rsiPeriod state.closeHistory.length state.avgGain (max 0 change)
        avgLoss := smooth rsiPeriod state.closeHistory.length state.avgLoss (max 0 (-change))
        closeHistory := kept }

theorem closeHistory_observe (rsiPeriod historyBound : ℕ) (close : K) (state : RsiState K) :
    (state.observe rsiPeriod historyBound close).closeHistory =
      if historyBound < (state.closeHistory ++ [close]).length then
        (state.closeHistory ++ [close]).tail
      else state.closeHistory ++ [close] := by
  unfold observe
  simp only
  split <;> rfl

theorem length_le_observe (rsiPeriod historyBound : ℕ) (close : K) (state : RsiState K) :
    state.closeHistory.length ≤
      (state.observe rsiPeriod historyBound close).closeHistory.length := by
  rw [closeHistory_observe]
  split
  · simp
  · simp

theorem length_observe (rsiPeriod : ℕ) {historyBound : ℕ} (close : K) {state : RsiState K}
    (bounded : state.closeHistory.length ≤ historyBound) :
    (state.observe rsiPeriod historyBound close).closeHistory.length =
      min (state.closeHistory.length + 1) historyBound := by
  rw [closeHistory_observe]
  split_ifs with full
  · rw [List.length_append, List.length_singleton] at full
    rw [List.length_tail, List.length_append, List.length_singleton]
    omega
  · rw [List.length_append, List.length_singleton] at full ⊢
    omega

/-- `sum(close_history[-period:]) / period`. -/
def sma (state : RsiState K) (period : ℕ) : K :=
  (state.closeHistory.drop (state.closeHistory.length - period)).sum / period

def rsi (state : RsiState K) : K :=
  if state.avgLoss = 0 then if 0 < state.avgGain then (100 : ℕ) else (50 : ℕ)
  else (100 : ℕ) - (100 : ℕ) / (1 + state.avgGain / state.avgLoss)

/-! ### The averages of all closes -/

def gains (closes : List K) : List K :=
  (WilderAverage.changes closes).map (max 0)

def losses (closes : List K) : List K :=
  (WilderAverage.changes closes).map (fun change => max 0 (-change))

/-- The averages after some closes are Wilder's over all of them, although the history keeps
the last `historyBound` only. -/
structure Averages (rsiPeriod historyBound : ℕ) (closes : List K) (state : RsiState K) :
    Prop where
  length : state.closeHistory.length = min closes.length historyBound
  last : state.closeHistory.getLast? = closes.getLast?
  avgGain : state.avgGain = WilderAverage.kept rsiPeriod (gains closes)
  avgLoss : state.avgLoss = WilderAverage.kept rsiPeriod (losses closes)

theorem averages_start {rsiPeriod : ℕ} (one_le : 1 ≤ rsiPeriod) (historyBound : ℕ) :
    (start : RsiState K).Averages rsiPeriod historyBound [] where
  length := (Nat.zero_min historyBound).symm
  last := rfl
  avgGain := (if_pos one_le).symm
  avgLoss := (if_pos one_le).symm

omit [LinearOrder K] in
theorem smooth_kept {rsiPeriod historyBound historyLength : ℕ} (beyond : rsiPeriod < historyBound)
    {changes : List K} (length : historyLength = min (changes.length + 1) historyBound)
    (change : K) :
    smooth rsiPeriod historyLength (WilderAverage.kept rsiPeriod changes) change =
      WilderAverage.kept rsiPeriod (changes ++ [change]) := by
  have warmup : historyLength < rsiPeriod ↔ changes.length + 1 < rsiPeriod := by omega
  have due : historyLength = rsiPeriod ↔ changes.length + 1 = rsiPeriod := by omega
  rw [WilderAverage.kept_concat, smooth, if_congr warmup rfl (if_congr due rfl rfl)]
  rfl

theorem getLast?_observe {historyBound : ℕ} (bound_pos : 0 < historyBound) (rsiPeriod : ℕ)
    (close : K) (state : RsiState K) :
    (state.observe rsiPeriod historyBound close).closeHistory.getLast? = some close := by
  rw [closeHistory_observe]
  split_ifs with full
  · obtain ⟨first, rest, split⟩ : ∃ first rest, state.closeHistory = first :: rest := by
      cases stored : state.closeHistory with
      | nil =>
          rw [stored] at full
          exact absurd full (not_lt.mpr bound_pos)
      | cons first rest => exact ⟨first, rest, rfl⟩
    rw [split]
    exact List.getLast?_concat
  · exact List.getLast?_concat

theorem gains_concat {closes : List K} {previous : K} (last : closes.getLast? = some previous)
    (close : K) : gains (closes ++ [close]) = gains closes ++ [max 0 (close - previous)] := by
  rw [gains, WilderAverage.changes_concat last, List.map_append]
  rfl

theorem losses_concat {closes : List K} {previous : K} (last : closes.getLast? = some previous)
    (close : K) :
    losses (closes ++ [close]) = losses closes ++ [max 0 (-(close - previous))] := by
  rw [losses, WilderAverage.changes_concat last, List.map_append]
  rfl

theorem avgGain_observe {state : RsiState K} {previous : K}
    (stored : state.closeHistory.getLast? = some previous) (rsiPeriod historyBound : ℕ)
    (close : K) :
    (state.observe rsiPeriod historyBound close).avgGain =
      smooth rsiPeriod state.closeHistory.length state.avgGain (max 0 (close - previous)) := by
  unfold observe
  rw [stored]

theorem avgLoss_observe {state : RsiState K} {previous : K}
    (stored : state.closeHistory.getLast? = some previous) (rsiPeriod historyBound : ℕ)
    (close : K) :
    (state.observe rsiPeriod historyBound close).avgLoss =
      smooth rsiPeriod state.closeHistory.length state.avgLoss (max 0 (-(close - previous))) := by
  unfold observe
  rw [stored]

theorem averages_observe {rsiPeriod historyBound : ℕ} (beyond : rsiPeriod < historyBound)
    {closes : List K} {state : RsiState K}
    (averages : state.Averages rsiPeriod historyBound closes) (close : K) :
    (state.observe rsiPeriod historyBound close).Averages rsiPeriod historyBound
      (closes ++ [close]) := by
  have bounded : state.closeHistory.length ≤ historyBound :=
    averages.length.trans_le (min_le_right _ _)
  have length : (state.observe rsiPeriod historyBound close).closeHistory.length =
      min (closes ++ [close]).length historyBound := by
    rw [length_observe rsiPeriod close bounded, averages.length, List.length_append,
      List.length_singleton]
    omega
  have last : (state.observe rsiPeriod historyBound close).closeHistory.getLast? =
      (closes ++ [close]).getLast? := by
    rw [getLast?_observe (Nat.zero_lt_of_lt beyond), List.getLast?_concat]
  cases ends : closes.getLast? with
  | none =>
      cases List.getLast?_eq_none_iff.mp ends
      have unseeded : state.closeHistory.getLast? = none := averages.last
      refine ⟨length, last, ?_, ?_⟩
      · unfold observe
        rw [unseeded]
        exact averages.avgGain
      · unfold observe
        rw [unseeded]
        exact averages.avgLoss
  | some previous =>
      have seen : closes.length - 1 + 1 = closes.length := by
        cases closes with
        | nil => cases ends
        | cons first rest => rfl
      have known : ∀ changed : K → K,
          state.closeHistory.length =
            min (((WilderAverage.changes closes).map changed).length + 1) historyBound := by
        intro changed
        rw [List.length_map, WilderAverage.length_changes, seen, averages.length]
      have stored : state.closeHistory.getLast? = some previous := averages.last.trans ends
      refine ⟨length, last, ?_, ?_⟩
      · rw [avgGain_observe stored, averages.avgGain, gains_concat ends]
        exact smooth_kept beyond (known (max 0)) _
      · rw [avgLoss_observe stored, averages.avgLoss, losses_concat ends]
        exact smooth_kept beyond (known (fun change => max 0 (-change))) _

end RsiState

end TradingEngine
