/-
Whole-lot sizing of equal budgets.

A budget buys as many whole units as fit, but never less than one.  The spend
of such a purchase differs from the budget in two ways only: a price above the
budget overshoots it, and flooring leaves a remainder of a price below it.  The
totals over a list of purchases follow, which is the exact account of an equal
split of one amount.
-/

import Mathlib.Algebra.Order.Floor.Semifield
import Mathlib.Algebra.Order.BigOperators.Group.List
import Mathlib.Data.Rat.Floor
import Mathlib.Tactic.Linarith
import Mathlib.Tactic.Ring
import Mathlib.Tactic.Positivity

namespace LotSizing

variable {K : Type} [Field K] [LinearOrder K] [IsStrictOrderedRing K] [FloorRing K]

def units (budget price : K) : ℕ :=
  max 1 ⌊budget / price⌋₊

def spend (budget price : K) : K :=
  units budget price * price

/-- What one purchase costs beyond its budget. -/
def excess (budget price : K) : K :=
  if budget < price then price - budget else 0

/-- What flooring leaves of the budget of one purchase. -/
def slack (budget price : K) : K :=
  if budget < price then 0 else budget - ⌊budget / price⌋₊ * price

theorem units_of_budget_lt {budget price : K} (positive : 0 < price)
    (above : budget < price) : units budget price = 1 := by
  have below : budget / price < 1 := (div_lt_one positive).mpr above
  have floorZero : ⌊budget / price⌋₊ = 0 := Nat.floor_eq_zero.mpr below
  rw [units, floorZero]
  rfl

theorem units_of_price_le {budget price : K} (positive : 0 < price)
    (within : price ≤ budget) : units budget price = ⌊budget / price⌋₊ := by
  have atLeast : 1 ≤ budget / price := (one_le_div positive).mpr within
  exact max_eq_right (Nat.le_floor (by simpa using atLeast))

theorem spend_eq (budget price : K) (positive : 0 < price) :
    spend budget price = budget + excess budget price - slack budget price := by
  by_cases above : budget < price
  · rw [spend, units_of_budget_lt positive above, excess, slack, if_pos above, if_pos above]
    push_cast
    ring
  · rw [spend, units_of_price_le positive (not_lt.mp above), excess, slack,
      if_neg above, if_neg above]
    ring

theorem slack_nonneg {budget price : K} (positive : 0 < price) :
    0 ≤ slack budget price := by
  unfold slack
  split_ifs with above
  · exact le_refl 0
  · have quotient : (0 : K) ≤ budget / price :=
      div_nonneg (le_trans (le_of_lt positive) (not_lt.mp above)) (le_of_lt positive)
    have fits : (⌊budget / price⌋₊ : K) * price ≤ budget :=
      (le_div_iff₀ positive).mp (Nat.floor_le quotient)
    linarith

theorem spend_le_of_price_le {budget price : K} (positive : 0 < price)
    (within : price ≤ budget) : spend budget price ≤ budget := by
  have account := spend_eq budget price positive
  have noExcess : excess budget price = 0 := if_neg (not_lt.mpr within)
  have remainder : 0 ≤ slack budget price := slack_nonneg positive
  linarith

theorem sum_spend_eq (budget : K) (prices : List K)
    (positive : ∀ price ∈ prices, 0 < price) :
    (prices.map (spend budget)).sum =
      prices.length * budget + (prices.map (excess budget)).sum -
        (prices.map (slack budget)).sum := by
  induction prices with
  | nil => simp
  | cons price rest ih =>
      have first := spend_eq budget price (positive price List.mem_cons_self)
      have others := ih (fun other member => positive other (List.mem_cons_of_mem price member))
      simp only [List.map_cons, List.sum_cons, List.length_cons, first, others]
      push_cast
      ring

theorem sum_spend_le (budget : K) (prices : List K)
    (positive : ∀ price ∈ prices, 0 < price) (within : ∀ price ∈ prices, price ≤ budget) :
    (prices.map (spend budget)).sum ≤ prices.length * budget := by
  rw [← nsmul_eq_mul, ← List.length_map (spend budget)]
  apply List.sum_le_card_nsmul
  intro spent member
  rcases List.mem_map.mp member with ⟨price, priceMember, rfl⟩
  exact spend_le_of_price_le (positive price priceMember) (within price priceMember)

end LotSizing
