/-
The price ratio of a pair and its z-score.

The deployed replay and the reference strategy of the Black Swan pairs keep the
same window of ratios and score the newest one against it.
-/

import TradingEngine.General.SampleStatistics
import TradingEngine.MarketData

namespace TradingEngine

open SampleStatistics

variable {K : Type} [Field K] [LinearOrder K]

/-- One date on which both legs of a pair have a close.  The first close is divided
by when a position in the first leg is sized; the second is tested against zero. -/
structure PairRow (K : Type) [Field K] [LinearOrder K] where
  timestamp : Timestamp
  closeA : K
  closeB : K
  closeA_pos : 0 < closeA

structure PairSeries (K : Type) [Field K] [LinearOrder K] where
  rows : List (PairRow K)
  increasing : rows.Pairwise
    (fun earlier later => earlier.timestamp.seconds < later.timestamp.seconds)

theorem PairSeries.timestamp_ne (series : PairSeries K) {i j : ℕ} {earlier later : PairRow K}
    (before : i < j) (foundEarlier : series.rows[i]? = some earlier)
    (foundLater : series.rows[j]? = some later) : earlier.timestamp ≠ later.timestamp := by
  obtain ⟨boundEarlier, rfl⟩ := List.getElem?_eq_some_iff.mp foundEarlier
  obtain ⟨boundLater, rfl⟩ := List.getElem?_eq_some_iff.mp foundLater
  have ordered := List.pairwise_iff_getElem.mp series.increasing i j boundEarlier boundLater
    before
  intro same
  rw [same] at ordered
  exact lt_irrefl _ ordered

inductive PairSide where
  | longA
  | longB
deriving DecidableEq

namespace PairRow

def closeOf (row : PairRow K) : PairSide → K
  | .longA => row.closeA
  | .longB => row.closeB

def ratio (row : PairRow K) : K :=
  row.closeA / row.closeB

/-- The bounded ratio history after a row; a zero close leaves it alone. -/
def observe (windowSize : ℕ) (row : PairRow K) (history : List K) : List K :=
  if row.closeB = 0 then history
  else
    let extended := history ++ [row.ratio]
    if windowSize < extended.length then extended.tail else extended

/-- The z-score of a row against the history that already contains its ratio.  A
zero close, a short history and a flat history have none. -/
def zScore (sqrt : K → K) (windowSize : ℕ) (row : PairRow K) (history : List K) : Option K :=
  if row.closeB = 0 ∨ history.length < windowSize ∨ stdev sqrt history = 0 then none
  else some ((row.ratio - mean history) / stdev sqrt history)

end PairRow

end TradingEngine
