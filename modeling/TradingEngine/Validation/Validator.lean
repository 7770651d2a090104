/-
The validation gates of a backtest.

A gate that is not configured is skipped; every gate that a metric misses adds one failure
with its texts.  How numbers are shown and read as floats is a parameter.
-/

import TradingEngine.Backtest.Metrics

namespace TradingEngine.Validation

open Backtest

/-- `ValidationGateConfig` with what `__post_init__` checks. -/
structure ValidationGateConfig where
  minTrades : ℤ := 30
  minSharpe : Option ℚ := none
  maxDrawdownPct : Option ℚ := none
  minWinRate : Option ℚ := none
  minProfitFactor : Option ℚ := none
  minExpectancy : Option ℚ := none
  maxTotalFeesPctOfPnl : Option ℚ := none
  minTrades_nonneg : 0 ≤ minTrades := by decide
  maxDrawdownPct_mem : ∀ bound ∈ maxDrawdownPct, 0 ≤ bound ∧ bound ≤ 1 := by nofun
  minWinRate_mem : ∀ bound ∈ minWinRate, 0 ≤ bound ∧ bound ≤ 1 := by nofun
  minProfitFactor_pos : ∀ bound ∈ minProfitFactor, 0 < bound := by nofun
  maxTotalFeesPctOfPnl_mem : ∀ bound ∈ maxTotalFeesPctOfPnl, 0 ≤ bound ∧ bound ≤ 1 := by nofun

structure ValidationGateFailure where
  gateName : String
  expected : String
  actual : String
  message : String
deriving DecidableEq

/-- A value of the metrics snapshot of a result. -/
inductive MetricValue where
  | count (value : ℕ)
  | ratio (value : Option ℚ)
  | text (value : String)
deriving DecidableEq

structure ValidationResult where
  passed : Bool
  failedGates : List ValidationGateFailure
  metrics : List (String × MetricValue)
deriving DecidableEq

/-- How numbers are read and shown. -/
structure Formats where
  /-- `float` of a `Decimal`, as its exact value. -/
  float : ℚ → ℚ
  /-- `str` of a `Decimal`. -/
  decimal : ℚ → String
  /-- `str` of a float. -/
  plain : ℚ → String
  /-- `f"{x:.1%}"`. -/
  percent : ℚ → String
  /-- `f"{x:.4f}"`. -/
  fixed : ℚ → String

/-! ### Gates -/

def belowGate (gateName label : String) (showBound showValue : ℚ → String) (value : ℚ) :
    Option ℚ → List ValidationGateFailure
  | none => []
  | some bound =>
      if value < bound then
        [{ gateName := gateName
           expected := ">= " ++ showBound bound
           actual := showValue value
           message := label ++ " " ++ showValue value ++ " is below minimum " ++
             showBound bound ++ "." }]
      else []

variable (formats : Formats) (cfg : ValidationGateConfig) (m : BacktestMetrics)

def minTradesGate : List ValidationGateFailure :=
  if (m.tradeCount : ℤ) < cfg.minTrades then
    [{ gateName := "min_trades"
       expected := ">= " ++ toString cfg.minTrades
       actual := toString m.tradeCount
       message := "Trade count " ++ toString m.tradeCount ++ " is below minimum " ++
         toString cfg.minTrades ++ "." }]
  else []

/-- A ratio that could not be computed fails the gate. -/
def minSharpeGate : List ValidationGateFailure :=
  match cfg.minSharpe, m.sharpeRatio with
  | none, _ => []
  | some bound, none =>
      [{ gateName := "min_sharpe"
         expected := ">= " ++ formats.plain bound
         actual := "MISSING"
         message := "Sharpe ratio could not be computed (insufficient data); required >= " ++
           formats.plain bound ++ "." }]
  | some bound, some sharpe =>
      belowGate "min_sharpe" "Sharpe ratio" formats.plain formats.fixed sharpe (some bound)

def maxDrawdownGate : List ValidationGateFailure :=
  match cfg.maxDrawdownPct with
  | none => []
  | some bound =>
      let dd := formats.float m.maxDrawdown
      if bound < dd then
        [{ gateName := "max_drawdown_pct"
           expected := "<= " ++ formats.percent bound
           actual := formats.percent dd
           message := "Max drawdown " ++ formats.percent dd ++ " exceeds limit " ++
             formats.percent bound ++ "." }]
      else []

def minWinRateGate : List ValidationGateFailure :=
  belowGate "min_win_rate" "Win rate" formats.percent formats.percent (formats.float m.winRate)
    cfg.minWinRate

def minProfitFactorGate : List ValidationGateFailure :=
  belowGate "min_profit_factor" "Profit factor" formats.plain formats.fixed
    (formats.float m.profitFactor) cfg.minProfitFactor

def minExpectancyGate : List ValidationGateFailure :=
  belowGate "min_expectancy" "Expectancy" formats.plain formats.fixed
    (formats.float m.expectancy) cfg.minExpectancy

def maxTotalFeesGate : List ValidationGateFailure :=
  match cfg.maxTotalFeesPctOfPnl with
  | none => []
  | some bound =>
      if m.totalPnl = 0 then
        if 0 < m.totalFees then
          [{ gateName := "max_total_fees_pct_of_pnl"
             expected := "<= " ++ formats.percent bound ++ " of PnL"
             actual := "N/A (PnL is zero)"
             message :=
               "Cannot compute fees/PnL ratio: total_pnl is zero but fees are non-zero." }]
        else []
      else
        let feesPct := formats.float m.totalFees / |formats.float m.totalPnl|
        if bound < feesPct then
          [{ gateName := "max_total_fees_pct_of_pnl"
             expected := "<= " ++ formats.percent bound
             actual := formats.percent feesPct
             message := "Total fees are " ++ formats.percent feesPct ++
               " of |PnL|, exceeding limit of " ++ formats.percent bound ++ "." }]
        else []

def failures : List ValidationGateFailure :=
  minTradesGate cfg m ++ minSharpeGate formats cfg m ++ maxDrawdownGate formats cfg m ++
    minWinRateGate formats cfg m ++ minProfitFactorGate formats cfg m ++
    minExpectancyGate formats cfg m ++ maxTotalFeesGate formats cfg m

/-- `StrategyValidator.validate`. -/
def validate : ValidationResult :=
  { passed := (failures formats cfg m).isEmpty
    failedGates := failures formats cfg m
    metrics :=
      [("trade_count", .count m.tradeCount), ("sharpe_ratio", .ratio m.sharpeRatio),
        ("max_drawdown", .text (formats.decimal m.maxDrawdown)),
        ("win_rate", .text (formats.decimal m.winRate)),
        ("profit_factor", .text (formats.decimal m.profitFactor)),
        ("expectancy", .text (formats.decimal m.expectancy)),
        ("total_fees", .text (formats.decimal m.totalFees)),
        ("total_pnl", .text (formats.decimal m.totalPnl))] }

/-! ### Passing a gate -/

def Passes (gateName : String) : Prop :=
  gateName ∉ (validate formats cfg m).failedGates.map (fun failure => failure.gateName)

instance (gateName : String) : Decidable (Passes formats cfg m gateName) :=
  inferInstanceAs (Decidable (¬ _))

variable {formats cfg m}

theorem mem_names_belowGate {name gateName label : String} {showBound showValue : ℚ → String}
    {value : ℚ} {bound : Option ℚ} :
    name ∈ (belowGate gateName label showBound showValue value bound).map
        (fun failure => failure.gateName) ↔
      name = gateName ∧ ∃ least ∈ bound, value < least := by
  cases bound with
  | none => simp [belowGate]
  | some least =>
      by_cases below : value < least
      · simp [belowGate, below]
      · simp [belowGate, below]

theorem name_of_minTradesGate {name : String}
    (member : name ∈ (minTradesGate cfg m).map (fun failure => failure.gateName)) :
    name = "min_trades" := by
  obtain ⟨failure, listed, rfl⟩ := List.mem_map.mp member
  unfold minTradesGate at listed
  split_ifs at listed
  · rw [List.mem_singleton.mp listed]
  · cases listed

theorem name_of_minSharpeGate {name : String}
    (member : name ∈ (minSharpeGate formats cfg m).map (fun failure => failure.gateName)) :
    name = "min_sharpe" := by
  unfold minSharpeGate at member
  split at member
  · cases member
  · exact List.mem_singleton.mp member
  · exact (mem_names_belowGate.mp member).1

theorem name_of_maxDrawdownGate {name : String}
    (member : name ∈ (maxDrawdownGate formats cfg m).map (fun failure => failure.gateName)) :
    name = "max_drawdown_pct" := by
  obtain ⟨failure, listed, rfl⟩ := List.mem_map.mp member
  unfold maxDrawdownGate at listed
  split at listed
  · cases listed
  · dsimp only at listed
    split_ifs at listed
    · rw [List.mem_singleton.mp listed]
    · cases listed

theorem name_of_maxTotalFeesGate {name : String}
    (member : name ∈ (maxTotalFeesGate formats cfg m).map (fun failure => failure.gateName)) :
    name = "max_total_fees_pct_of_pnl" := by
  obtain ⟨failure, listed, rfl⟩ := List.mem_map.mp member
  unfold maxTotalFeesGate at listed
  split at listed
  · cases listed
  · dsimp only at listed
    split_ifs at listed
    · rw [List.mem_singleton.mp listed]
    · cases listed
    · rw [List.mem_singleton.mp listed]
    · cases listed

/-- A gate with another name than the four special ones passes when the three lower bounds
do not fail under that name. -/
theorem passes_iff {name : String}
    (other : name ∉ ["min_trades", "min_sharpe", "max_drawdown_pct",
      "max_total_fees_pct_of_pnl"]) :
    Passes formats cfg m name ↔
      name ∉ (minWinRateGate formats cfg m).map (fun failure => failure.gateName) ∧
        name ∉ (minProfitFactorGate formats cfg m).map (fun failure => failure.gateName) ∧
        name ∉ (minExpectancyGate formats cfg m).map (fun failure => failure.gateName) := by
  have trades : name ∉ (minTradesGate cfg m).map (fun failure => failure.gateName) := by
    intro member
    rw [name_of_minTradesGate member] at other
    exact other (by decide)
  have sharpe : name ∉ (minSharpeGate formats cfg m).map (fun failure => failure.gateName) := by
    intro member
    rw [name_of_minSharpeGate member] at other
    exact other (by decide)
  have fall : name ∉ (maxDrawdownGate formats cfg m).map (fun failure => failure.gateName) := by
    intro member
    rw [name_of_maxDrawdownGate member] at other
    exact other (by decide)
  have fees : name ∉ (maxTotalFeesGate formats cfg m).map
      (fun failure => failure.gateName) := by
    intro member
    rw [name_of_maxTotalFeesGate member] at other
    exact other (by decide)
  change name ∉ (failures formats cfg m).map (fun failure => failure.gateName) ↔ _
  unfold failures
  simp only [List.map_append, List.mem_append, not_or, trades, sharpe, fall, fees,
    not_false_eq_true, true_and, and_true, and_assoc]

theorem passes_bounds :
    (Passes formats cfg m "min_win_rate" ↔
        ∀ least ∈ cfg.minWinRate, least ≤ formats.float m.winRate) ∧
      (Passes formats cfg m "min_profit_factor" ↔
        ∀ least ∈ cfg.minProfitFactor, least ≤ formats.float m.profitFactor) ∧
      (Passes formats cfg m "min_expectancy" ↔
        ∀ least ∈ cfg.minExpectancy, least ≤ formats.float m.expectancy) := by
  refine ⟨?_, ?_, ?_⟩
  all_goals
    rw [passes_iff (by decide)]
    unfold minWinRateGate minProfitFactorGate minExpectancyGate
    simp only [mem_names_belowGate]
    simp

end TradingEngine.Validation
