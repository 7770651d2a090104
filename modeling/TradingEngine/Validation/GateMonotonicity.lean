/-
Better trades and the validation gates.

The win rate only rises when every trade does at least as well.  The profit factor drops to
zero when the last losing trade goes, and the expectancy charges the average loss for a trade
that breaks even; these are the two ways in which better trades fail a gate.
-/

import TradingEngine.Backtest.TradeMetrics
import TradingEngine.Validation.Validator

namespace TradingEngine.Validation

open Backtest

variable {as bs pnls : List ℚ}

/-! ### Better trades -/

theorem sum_filter_eq {chosen : ℚ → Bool} {clip : ℚ → ℚ}
    (clipped : ∀ pnl, clip pnl = if chosen pnl then pnl else 0) (pnls : List ℚ) :
    (pnls.filter chosen).sum = (pnls.map clip).sum := by
  induction pnls with
  | nil => rfl
  | cons pnl rest ih =>
      rw [List.filter_cons, List.map_cons, List.sum_cons, ← ih, clipped]
      split_ifs
      · exact List.sum_cons
      · exact (zero_add _).symm

theorem sum_wins_eq (pnls : List ℚ) : (wins pnls).sum = (pnls.map (fun pnl => max pnl 0)).sum :=
  sum_filter_eq (fun pnl => by simp only [decide_eq_true_eq, max_comm pnl 0, max_def_lt]) pnls

theorem sum_losses_eq (pnls : List ℚ) :
    (losses pnls).sum = (pnls.map (fun pnl => min pnl 0)).sum :=
  sum_filter_eq (fun pnl => by simp only [decide_eq_true_eq, min_def_lt]) pnls

theorem sum_wins_mono (better : List.Forall₂ (· ≤ ·) as bs) :
    (wins as).sum ≤ (wins bs).sum := by
  rw [sum_wins_eq, sum_wins_eq]
  apply List.Forall₂.sum_le_sum
  exact List.rel_map (fun _a _b le => max_le_max_right 0 le) better

theorem sum_losses_mono (better : List.Forall₂ (· ≤ ·) as bs) :
    (losses as).sum ≤ (losses bs).sum := by
  rw [sum_losses_eq, sum_losses_eq]
  apply List.Forall₂.sum_le_sum
  exact List.rel_map (fun _a _b le => min_le_min_right 0 le) better

theorem length_wins_mono (better : List.Forall₂ (· ≤ ·) as bs) :
    (wins as).length ≤ (wins bs).length := by
  induction better with
  | nil => exact le_refl _
  | @cons a b restA restB le _rest ih =>
      unfold wins at ih ⊢
      rw [List.filter_cons, List.filter_cons]
      by_cases won : 0 < a
      · simpa [won, lt_of_lt_of_le won le] using ih
      · by_cases wonB : 0 < b
        · simpa [won, wonB] using Nat.le_succ_of_le ih
        · simpa [won, wonB] using ih

/-! ### The three metrics -/

theorem winRate_mono (better : List.Forall₂ (· ≤ ·) as bs) :
    (tradeMetrics as).winRate ≤ (tradeMetrics bs).winRate := by
  rw [winRate_eq, winRate_eq, better.length_eq]
  apply div_le_div_of_nonneg_right _ (Nat.cast_nonneg _)
  exact_mod_cast length_wins_mono better

theorem profitFactor_eq (pnls : List ℚ) :
    (tradeMetrics pnls).profitFactor = (wins pnls).sum / -(losses pnls).sum := by
  unfold tradeMetrics
  dsimp only
  by_cases lost : losses pnls = []
  · rw [lost, List.sum_nil, abs_zero, if_neg (lt_irrefl 0), neg_zero, div_zero]
  · rw [abs_of_neg (sum_losses_neg lost), if_pos (neg_pos.mpr (sum_losses_neg lost))]

theorem sum_wins_nonneg (pnls : List ℚ) : 0 ≤ (wins pnls).sum := by
  by_cases won : wins pnls = []
  · rw [won, List.sum_nil]
  · exact (sum_wins_pos won).le

theorem profitFactor_nonneg (pnls : List ℚ) : 0 ≤ (tradeMetrics pnls).profitFactor := by
  rw [profitFactor_eq]
  by_cases lost : losses pnls = []
  · rw [lost, List.sum_nil, neg_zero, div_zero]
  · exact div_nonneg (sum_wins_nonneg pnls) (neg_nonneg.mpr (sum_losses_neg lost).le)

theorem profitFactor_eq_zero_iff :
    (tradeMetrics pnls).profitFactor = 0 ↔ (∀ pnl ∈ pnls, 0 ≤ pnl) ∨ ∀ pnl ∈ pnls, pnl ≤ 0 := by
  rw [profitFactor_eq, div_eq_zero_iff, neg_eq_zero, ← losses_eq_nil_iff, ← wins_eq_nil_iff,
    sum_wins_eq_zero_iff, sum_losses_eq_zero_iff, or_comm]

/-- The profit factor rises with the trades as long as one of them still loses. -/
theorem profitFactor_mono (better : List.Forall₂ (· ≤ ·) as bs) (lost : ∃ pnl ∈ bs, pnl < 0) :
    (tradeMetrics as).profitFactor ≤ (tradeMetrics bs).profitFactor := by
  have stillLost : losses bs ≠ [] := by
    intro none
    obtain ⟨pnl, member, negative⟩ := lost
    exact absurd (losses_eq_nil_iff.mp none pnl member) (not_le.mpr negative)
  have positive : 0 < -(losses bs).sum := neg_pos.mpr (sum_losses_neg stillLost)
  rw [profitFactor_eq, profitFactor_eq]
  exact div_le_div₀ (sum_wins_nonneg bs) (sum_wins_mono better) positive
    (neg_le_neg (sum_losses_mono better))

/-- Whether the expectancy rises depends on what the break-even trades are charged. -/
theorem expectancy_le_iff (sameLength : as.length = bs.length) :
    (tradeMetrics as).expectancy ≤ (tradeMetrics bs).expectancy ↔
      bs.count 0 * meanLoss bs - as.count 0 * meanLoss as ≤ bs.sum - as.sum := by
  rw [expectancy_eq, expectancy_eq, sameLength]
  by_cases traded : bs = []
  · subst traded
    rw [List.length_eq_zero_iff.mp sameLength]
    simp
  · have size : (0 : ℚ) < bs.length := by
      exact_mod_cast List.length_pos_iff.mpr traded
    rw [div_le_div_iff_of_pos_right size]
    constructor
    · intro order
      linarith
    · intro order
      linarith

/-! ### Gates -/

/-- The gates on the trades: profit factor, win rate and expectancy. -/
def PassesTradeGates (formats : Formats) (cfg : ValidationGateConfig) (m : BacktestMetrics) :
    Prop :=
  Passes formats cfg m "min_profit_factor" ∧ Passes formats cfg m "min_win_rate" ∧
    Passes formats cfg m "min_expectancy"

instance (formats : Formats) (cfg : ValidationGateConfig) (m : BacktestMetrics) :
    Decidable (PassesTradeGates formats cfg m) :=
  inferInstanceAs (Decidable (_ ∧ _))

theorem passesTradeGates_iff {formats : Formats} {cfg : ValidationGateConfig}
    {m : BacktestMetrics} :
    PassesTradeGates formats cfg m ↔
      (∀ least ∈ cfg.minProfitFactor, least ≤ formats.float m.profitFactor) ∧
        (∀ least ∈ cfg.minWinRate, least ≤ formats.float m.winRate) ∧
        ∀ least ∈ cfg.minExpectancy, least ≤ formats.float m.expectancy := by
  rw [PassesTradeGates, passes_bounds.1, passes_bounds.2.1, passes_bounds.2.2]

/-- Whatever gates on the trades the trades of `as` pass, those of `bs` pass. -/
def GatesKept (as bs : List ℚ) : Prop :=
  ∀ (formats : Formats), Monotone formats.float →
    ∀ (cfg : ValidationGateConfig) (a b : BacktestMetrics),
      a.toTradeMetrics = tradeMetrics as → b.toTradeMetrics = tradeMetrics bs →
        PassesTradeGates formats cfg a → PassesTradeGates formats cfg b

theorem gatesKept_of_le (winRate : (tradeMetrics as).winRate ≤ (tradeMetrics bs).winRate)
    (profitFactor : (tradeMetrics as).profitFactor ≤ (tradeMetrics bs).profitFactor)
    (expectancy : (tradeMetrics as).expectancy ≤ (tradeMetrics bs).expectancy) :
    GatesKept as bs := by
  intro formats mono cfg a b ofA ofB passed
  rw [passesTradeGates_iff, ofA] at passed
  rw [passesTradeGates_iff, ofB]
  obtain ⟨factor, rate, expected⟩ := passed
  exact ⟨fun least given => le_trans (factor least given) (mono profitFactor),
    fun least given => le_trans (rate least given) (mono winRate),
    fun least given => le_trans (expected least given) (mono expectancy)⟩

/-- Metrics of a run with these trades. -/
def metricsOf (pnls : List ℚ) : BacktestMetrics :=
  { tradeMetrics pnls with
    totalReturn := 0
    totalPnl := 0
    unrealizedPnl := 0
    maxDrawdown := 0
    tradeCount := 0
    totalFees := 0
    sharpeRatio := none
    sortinoRatio := none
    cagr := none }

/-- Floats without rounding. -/
def exactFormats : Formats :=
  { float := id
    decimal := fun _value => ""
    plain := fun _value => ""
    percent := fun _value => ""
    fixed := fun _value => "" }

theorem GatesKept.profitFactor (kept : GatesKept as bs) :
    (tradeMetrics as).profitFactor ≤ (tradeMetrics bs).profitFactor := by
  rcases (profitFactor_nonneg as).eq_or_lt with zero | positive
  · rw [← zero]
    exact profitFactor_nonneg bs
  · have bound := kept exactFormats monotone_id
      { minProfitFactor := some (tradeMetrics as).profitFactor
        minProfitFactor_pos := by
          intro bound given
          exact Option.mem_some_iff.mp given ▸ positive }
      (metricsOf as) (metricsOf bs) rfl rfl
    rw [passesTradeGates_iff, passesTradeGates_iff] at bound
    have passed := bound ⟨fun least given => (Option.mem_some_iff.mp given).ge, nofun, nofun⟩
    exact passed.1 _ (Option.mem_some_self _)

theorem GatesKept.expectancy (kept : GatesKept as bs) :
    (tradeMetrics as).expectancy ≤ (tradeMetrics bs).expectancy := by
  have bound := kept exactFormats monotone_id
    { minExpectancy := some (tradeMetrics as).expectancy }
    (metricsOf as) (metricsOf bs) rfl rfl
  rw [passesTradeGates_iff, passesTradeGates_iff] at bound
  have passed := bound ⟨nofun, nofun, fun least given => (Option.mem_some_iff.mp given).ge⟩
  exact passed.2.2 _ (Option.mem_some_self _)

/-- Better trades keep every gate on the trades exactly when one of them still loses, unless
the profit factor was zero before, and the charge for break-even trades grows by no more than
the total P&L. -/
theorem gatesKept_iff (better : List.Forall₂ (· ≤ ·) as bs) :
    GatesKept as bs ↔
      ((∃ pnl ∈ bs, pnl < 0) ∨ (∀ pnl ∈ as, 0 ≤ pnl) ∨ ∀ pnl ∈ as, pnl ≤ 0) ∧
        bs.count 0 * meanLoss bs - as.count 0 * meanLoss as ≤ bs.sum - as.sum := by
  rw [← expectancy_le_iff better.length_eq, ← profitFactor_eq_zero_iff]
  constructor
  · intro kept
    refine ⟨?_, kept.expectancy⟩
    by_cases lost : ∃ pnl ∈ bs, pnl < 0
    · exact Or.inl lost
    · push Not at lost
      have zero : (tradeMetrics bs).profitFactor = 0 := profitFactor_eq_zero_iff.mpr (Or.inl lost)
      have below := kept.profitFactor
      rw [zero] at below
      exact Or.inr (le_antisymm below (profitFactor_nonneg as))
  · rintro ⟨stillLost | zero, expectancy⟩
    · exact gatesKept_of_le (winRate_mono better) (profitFactor_mono better stillLost) expectancy
    · exact gatesKept_of_le (winRate_mono better) (zero ▸ profitFactor_nonneg bs) expectancy

/-! ### A losing trade turned into a winning one -/

def oneLossFills : List Domain.TradeFill :=
  [plainFill "INFY" .buy 1 100, plainFill "INFY" .sell 1 110,
    plainFill "TCS" .buy 1 100, plainFill "TCS" .sell 1 95]

def noLossFills : List Domain.TradeFill :=
  [plainFill "INFY" .buy 1 100, plainFill "INFY" .sell 1 110,
    plainFill "TCS" .buy 1 100, plainFill "TCS" .sell 1 105]

def profitFactorGate : ValidationGateConfig :=
  { minTrades := 0
    minProfitFactor := some (3 / 2)
    minProfitFactor_pos := by decide +kernel }

/-- The trades without a loss fail the gate that the worse ones pass. -/
theorem noLossFills_fail :
    tradePnls oneLossFills = [10, -5] ∧ tradePnls noLossFills = [10, 5] ∧
      PassesTradeGates exactFormats profitFactorGate
        (calculateBacktestMetrics exactMath 1000 1005 [] oneLossFills none none) ∧
      ¬ PassesTradeGates exactFormats profitFactorGate
        (calculateBacktestMetrics exactMath 1000 1015 [] noLossFills none none) := by
  decide +kernel

theorem gatesKept_of_smallerLoss :
    GatesKept [10, -5] [10, -4] ↔
      ((∃ pnl ∈ ([10, -4] : List ℚ), pnl < 0) ∨ (∀ pnl ∈ ([10, -5] : List ℚ), 0 ≤ pnl) ∨
          ∀ pnl ∈ ([10, -5] : List ℚ), pnl ≤ 0) ∧
        ([10, -4] : List ℚ).count 0 * meanLoss [10, -4] -
            ([10, -5] : List ℚ).count 0 * meanLoss [10, -5] ≤
          ([10, -4] : List ℚ).sum - ([10, -5] : List ℚ).sum :=
  gatesKept_iff (List.Forall₂.cons (le_refl _) (List.Forall₂.cons (by norm_num) List.Forall₂.nil))

end TradingEngine.Validation
