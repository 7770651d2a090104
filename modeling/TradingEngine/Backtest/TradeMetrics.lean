/-
What the metrics of a backtest say about its trades and its equity curve.

The drawdown loop finds the true maximum drawdown.  The expectancy is the mean P&L less a
penalty: a trade that breaks even is charged the average loss.
-/

import Mathlib.Data.PNat.Basic
import Mathlib.Tactic.FieldSimp
import Mathlib.Tactic.Linarith
import Mathlib.Tactic.Positivity
import Mathlib.Tactic.Ring
import TradingEngine.Backtest.Metrics

namespace TradingEngine.Backtest

open Domain RunningPeak

/-! ### Drawdown -/

theorem drawdown_of_pos {peak : ℚ} (positive : 0 < peak) (equity : ℚ) :
    drawdown peak equity = (peak - equity) / peak :=
  if_pos positive

theorem drawdown_mono {lower upper equity : ℚ} (positive : 0 < lower) (nonneg : 0 ≤ equity)
    (order : lower ≤ upper) : drawdown lower equity ≤ drawdown upper equity := by
  have above : 0 < upper := lt_of_lt_of_le positive order
  rw [drawdown_of_pos positive, drawdown_of_pos above, sub_div, sub_div,
    div_self positive.ne', div_self above.ne']
  exact sub_le_sub_left (div_le_div_of_nonneg_left nonneg positive order) 1

/-- The reported maximum drawdown is the worst relative fall from a point of the equity curve
to a later one. -/
theorem maxDrawdown_isGreatest (math : FloatMath) (initialCash finalEquity : ℚ)
    {equityCurve : List (Datetime × ℚ)} (fills : List TradeFill)
    (startTime endTime : Option Datetime) (nonempty : equityCurve ≠ [])
    (positive : ∀ point ∈ equityCurve, 0 < point.2) :
    IsGreatest
      {fall | LossIn (fun earlier later => (earlier - later) / earlier)
        (equityCurve.map Prod.snd) fall}
      (calculateBacktestMetrics math initialCash finalEquity equityCurve fills startTime
        endTime).maxDrawdown := by
  change IsGreatest _ (maxDrawdown (equityCurve.map Prod.snd))
  have values : ∀ equity ∈ equityCurve.map Prod.snd, 0 < equity := by
    intro equity member
    obtain ⟨point, present, rfl⟩ := List.mem_map.mp member
    exact positive point present
  cases shape : equityCurve.map Prod.snd with
  | nil => exact absurd (List.map_eq_nil_iff.mp shape) nonempty
  | cons first rest =>
      rw [shape] at values
      have greatest := (run_isGreatest drawdown 0 rest
        (fun lower atLower _upper _atUpper equity atEquity order =>
          drawdown_mono (values lower atLower) (values equity atEquity).le order)).2
      have same : {fall | fall = 0 ∨ LossIn drawdown (first :: rest) fall} =
          {fall | LossIn (fun earlier later => (earlier - later) / earlier)
            (first :: rest) fall} := by
        ext fall
        constructor
        · rintro (rfl | ⟨i, j, earlier, later, ordered, atI, atJ, rfl⟩)
          · -- no fall at all is the fall of a point to itself
            have still : (first - first) / first = 0 := by rw [sub_self, zero_div]
            exact ⟨0, 0, first, first, le_refl 0, rfl, rfl, still.symm⟩
          · exact ⟨i, j, earlier, later, ordered, atI, atJ,
              drawdown_of_pos (values earlier (List.mem_of_getElem? atI)) later⟩
        · rintro ⟨i, j, earlier, later, ordered, atI, atJ, rfl⟩
          exact Or.inr ⟨i, j, earlier, later, ordered, atI, atJ,
            (drawdown_of_pos (values earlier (List.mem_of_getElem? atI)) later).symm⟩
      rw [same] at greatest
      exact greatest

/-- Floats without rounding; the root is exact on squares of rationals. -/
def exactMath : FloatMath :=
  { float := id
    sqrt := fun value => (Nat.sqrt value.num.toNat : ℚ) / Nat.sqrt value.den
    power := fun _base _exponent => none }

def fallingCurve : List (Datetime × ℚ) :=
  [(0, 110), (60000000, 99)]

theorem fallingCurve_maxDrawdown :
    IsGreatest
      {fall | LossIn (fun earlier later => (earlier - later) / earlier)
        (fallingCurve.map Prod.snd) fall}
      (calculateBacktestMetrics exactMath 110 99 fallingCurve [] none none).maxDrawdown :=
  maxDrawdown_isGreatest exactMath 110 99 [] none none (by decide) (by decide +kernel)

/-! ### Wins, losses and break-even trades -/

variable {pnls : List ℚ}

theorem sum_wins_add_sum_losses (pnls : List ℚ) :
    (wins pnls).sum + (losses pnls).sum = pnls.sum := by
  induction pnls with
  | nil => exact add_zero 0
  | cons pnl rest ih =>
      unfold wins losses at ih ⊢
      rw [List.filter_cons, List.filter_cons, List.sum_cons, ← ih]
      rcases lt_trichotomy pnl 0 with loss | even | win
      · simp [loss, loss.not_gt, add_left_comm]
      · simp [even]
      · simp [win, win.not_gt, add_assoc]

theorem length_wins_add_length_losses (pnls : List ℚ) :
    (wins pnls).length + (losses pnls).length + pnls.count 0 = pnls.length := by
  induction pnls with
  | nil => rfl
  | cons pnl rest ih =>
      unfold wins losses at ih ⊢
      rw [List.filter_cons, List.filter_cons, List.length_cons, ← ih]
      rcases lt_trichotomy pnl 0 with loss | even | win
      · simp [loss, loss.not_gt, loss.ne]
        omega
      · simp [even]
        omega
      · simp [win, win.not_gt, win.ne']
        omega

theorem losses_eq_nil_iff : losses pnls = [] ↔ ∀ pnl ∈ pnls, 0 ≤ pnl := by
  simp [losses]

theorem wins_eq_nil_iff : wins pnls = [] ↔ ∀ pnl ∈ pnls, pnl ≤ 0 := by
  simp [wins]

theorem sum_wins_pos (won : wins pnls ≠ []) : 0 < (wins pnls).sum :=
  List.sum_pos _ (fun _pnl member => of_decide_eq_true (List.mem_filter.mp member).2) won

theorem sum_losses_neg (lost : losses pnls ≠ []) : (losses pnls).sum < 0 := by
  have negative : ∀ pnl ∈ losses pnls, pnl < 0 :=
    fun pnl member => of_decide_eq_true (List.mem_filter.mp member).2
  have below := List.sum_lt_sum_of_ne_nil lost (fun pnl => pnl) (fun _pnl => 0) negative
  rw [List.map_id', List.map_const', List.sum_replicate, nsmul_zero] at below
  exact below

theorem sum_wins_eq_zero_iff : (wins pnls).sum = 0 ↔ wins pnls = [] := by
  constructor
  · intro free
    by_contra won
    exact (sum_wins_pos won).ne' free
  · intro none
    rw [none, List.sum_nil]

theorem sum_losses_eq_zero_iff : (losses pnls).sum = 0 ↔ losses pnls = [] := by
  constructor
  · intro free
    by_contra lost
    exact (sum_losses_neg lost).ne free
  · intro none
    rw [none, List.sum_nil]

theorem cast_length_ne_zero (traded : pnls ≠ []) : (pnls.length : ℚ) ≠ 0 :=
  Nat.cast_ne_zero.mpr (mt List.length_eq_zero_iff.mp traded)

/-- The average loss, none being zero. -/
def meanLoss (pnls : List ℚ) : ℚ :=
  |(losses pnls).sum| / (losses pnls).length

theorem meanLoss_eq_zero_iff : meanLoss pnls = 0 ↔ ∀ pnl ∈ pnls, 0 ≤ pnl := by
  rw [meanLoss, div_eq_zero_iff, abs_eq_zero, sum_losses_eq_zero_iff, Nat.cast_eq_zero,
    List.length_eq_zero_iff, or_self, losses_eq_nil_iff]

/-! ### Expectancy -/

theorem averageTradePnl_eq (pnls : List ℚ) :
    (tradeMetrics pnls).averageTradePnl = pnls.sum / pnls.length := by
  unfold tradeMetrics
  dsimp only
  split_ifs with traded
  · rfl
  · rw [not_not.mp traded]
    exact (div_zero _).symm

theorem winRate_eq (pnls : List ℚ) :
    (tradeMetrics pnls).winRate = (wins pnls).length / pnls.length := by
  unfold tradeMetrics
  dsimp only
  split_ifs with traded
  · rfl
  · rw [Nat.eq_zero_of_not_pos traded, Nat.cast_zero, div_zero]

theorem averageWin_mul_length (pnls : List ℚ) :
    (wins pnls).length * (tradeMetrics pnls).averageWin = (wins pnls).sum := by
  unfold tradeMetrics
  dsimp only
  split_ifs with won
  · exact mul_div_cancel₀ _ (cast_length_ne_zero won)
  · rw [not_not.mp won, mul_zero, List.sum_nil]

theorem averageLoss_eq (pnls : List ℚ) :
    (tradeMetrics pnls).averageLoss = meanLoss pnls := by
  unfold tradeMetrics
  dsimp only
  split_ifs with lost
  · rfl
  · rw [meanLoss, not_not.mp lost]
    exact (div_zero _).symm

theorem meanLoss_mul_length (pnls : List ℚ) :
    (losses pnls).length * meanLoss pnls = -(losses pnls).sum := by
  by_cases lost : losses pnls = []
  · rw [lost, meanLoss, lost]
    simp
  · rw [meanLoss, mul_div_cancel₀ _ (cast_length_ne_zero lost), abs_of_neg (sum_losses_neg lost)]

theorem expectancy_eq (pnls : List ℚ) :
    (tradeMetrics pnls).expectancy =
      (pnls.sum - pnls.count 0 * meanLoss pnls) / pnls.length := by
  have defined : (tradeMetrics pnls).expectancy =
      (tradeMetrics pnls).winRate * (tradeMetrics pnls).averageWin -
        (1 - (tradeMetrics pnls).winRate) * (tradeMetrics pnls).averageLoss := rfl
  rw [defined, winRate_eq, averageLoss_eq]
  by_cases traded : pnls = []
  · subst traded
    have noLoss : meanLoss [] = 0 := meanLoss_eq_zero_iff.mpr nofun
    simp [noLoss]
  · have size := cast_length_ne_zero traded
    have counted : ((wins pnls).length : ℚ) + (losses pnls).length + pnls.count 0 =
        pnls.length := by
      exact_mod_cast length_wins_add_length_losses pnls
    have won := averageWin_mul_length pnls
    have lost := meanLoss_mul_length pnls
    have total := sum_wins_add_sum_losses pnls
    have lossRate : 1 - ((wins pnls).length : ℚ) / pnls.length =
        ((losses pnls).length + pnls.count 0) / pnls.length := by
      rw [← counted] at size ⊢
      field_simp
      ring
    rw [lossRate, div_mul_eq_mul_div, div_mul_eq_mul_div, ← sub_div, won, add_mul, lost]
    congr 1
    linarith

/-- Expectancy and average agree exactly when no trade breaks even or none loses. -/
theorem expectancy_eq_average_iff (pnls : List ℚ) :
    (tradeMetrics pnls).expectancy = (tradeMetrics pnls).averageTradePnl ↔
      (∀ pnl ∈ pnls, pnl ≠ 0) ∨ ∀ pnl ∈ pnls, 0 ≤ pnl := by
  rw [expectancy_eq, averageTradePnl_eq]
  by_cases traded : pnls = []
  · subst traded
    simp
  · rw [div_left_inj' (cast_length_ne_zero traded), sub_eq_self, mul_eq_zero,
      meanLoss_eq_zero_iff, Nat.cast_eq_zero, List.count_eq_zero]
    constructor
    · rintro (noneEven | noneLost)
      · exact Or.inl (fun pnl member even => noneEven (even ▸ member))
      · exact Or.inr noneLost
    · rintro (noneEven | noneLost)
      · exact Or.inl (fun member => noneEven 0 member rfl)
      · exact Or.inr noneLost

/-- A fill without fees, of at least one share and at a price of at least one. -/
def plainFill (symbol : String) (side : Signals.Side) (quantity price : ℕ) : TradeFill :=
  { fillId := "F1"
    symbol := symbol
    exchange := .nse
    side := side
    quantity := quantity.toPNat'
    price := (price.toPNat' : ℕ)
    fees := 0
    timestamp := 0
    quantity_pos := quantity.toPNat'.pos
    price_pos := Nat.cast_pos.mpr price.toPNat'.pos
    fees_nonneg := le_refl 0 }

/-- A win, a loss and a break-even trade. -/
def mixedFills : List TradeFill :=
  [plainFill "INFY" .buy 1 100, plainFill "INFY" .sell 1 110,
    plainFill "TCS" .buy 1 100, plainFill "TCS" .sell 1 90,
    plainFill "WIPRO" .buy 1 100, plainFill "WIPRO" .sell 1 100]

/-- The mean P&L is zero, the expectancy is `-10 / 3`. -/
theorem mixedFills_expectancy :
    tradePnls mixedFills = [10, -10, 0] ∧
      (tradeMetrics (tradePnls mixedFills)).expectancy ≠
        (tradeMetrics (tradePnls mixedFills)).averageTradePnl := by
  decide +kernel

end TradingEngine.Backtest
