/-
The performance metrics of a backtest.

The P&L of a trade is measured at its sell fill, and rates and averages are taken over all
trades.  Money is in exact rationals; the square root and the power of the float ratios
are parameters.
-/

import Mathlib.Data.List.MinMax
import TradingEngine.Backtest.Portfolio
import TradingEngine.General.RunningPeak
import TradingEngine.General.SampleStatistics

namespace TradingEngine.Backtest

open Domain

/-- The float functions that the ratios use; a float is its exact value. -/
structure FloatMath where
  /-- `float` of a `Decimal`. -/
  float : ℚ → ℚ
  sqrt : ℚ → ℚ
  /-- `x ** y`, `none` where it raises. -/
  power : ℚ → ℚ → Option ℚ

/-- The metrics that depend on the trades alone. -/
structure TradeMetrics where
  realizedPnl : ℚ
  winRate : ℚ
  profitFactor : ℚ
  winningTrades : ℕ
  losingTrades : ℕ
  averageWin : ℚ
  averageLoss : ℚ
  expectancy : ℚ
  averageTradePnl : ℚ
  bestTradePnl : ℚ
  worstTradePnl : ℚ
deriving DecidableEq

structure BacktestMetrics extends TradeMetrics where
  totalReturn : ℚ
  totalPnl : ℚ
  unrealizedPnl : ℚ
  maxDrawdown : ℚ
  tradeCount : ℕ
  totalFees : ℚ
  sharpeRatio : Option ℚ
  sortinoRatio : Option ℚ
  cagr : Option ℚ
deriving DecidableEq

/-! ### Drawdown -/

def drawdown (peak equity : ℚ) : ℚ :=
  if 0 < peak then (peak - equity) / peak else 0

/-- The loop over the equity curve; an empty curve has no drawdown. -/
def maxDrawdown : List ℚ → ℚ
  | [] => 0
  | first :: rest => (RunningPeak.run drawdown 0 first rest).2

/-! ### Trades -/

/-- `_compute_cost_basis`. -/
def computeCostBasis : List (ℕ × ℚ) → ℕ → ℚ
  | [], _remaining => 0
  | (quantity, price) :: rest, remaining =>
      if remaining = 0 then 0
      else
        let used := min quantity remaining
        used * price + computeCostBasis rest (remaining - used)

/-- The buys of each symbol. -/
abbrev BuyQueue : Type :=
  OrderedDict String (List (ℕ × ℚ))

def BuyQueue.of (queue : BuyQueue) (symbol : String) : List (ℕ × ℚ) :=
  (queue.get? symbol).getD []

/-- The loop over the fills: the buys so far and the P&L of the trades so far. -/
def matchFill (state : BuyQueue × List ℚ) (fill : TradeFill) : BuyQueue × List ℚ :=
  let buys := BuyQueue.of state.1 fill.symbol
  match fill.side with
  | .buy => (state.1.insert fill.symbol (buys ++ [(fill.quantity, fill.price)]), state.2)
  | .sell =>
      let costBasis := computeCostBasis buys fill.quantity
      (state.1, state.2 ++ [fill.quantity * fill.price - costBasis - fill.fees])

def tradePnls (fills : List TradeFill) : List ℚ :=
  (fills.foldl matchFill (OrderedDict.empty, [])).2

def wins (tradePnls : List ℚ) : List ℚ :=
  tradePnls.filter (fun pnl => 0 < pnl)

def losses (tradePnls : List ℚ) : List ℚ :=
  tradePnls.filter (fun pnl => pnl < 0)

def tradeMetrics (tradePnls : List ℚ) : TradeMetrics :=
  let wins := wins tradePnls
  let losses := losses tradePnls
  let totalEvaluated := tradePnls.length
  let winRate := if 0 < totalEvaluated then (wins.length : ℚ) / totalEvaluated else 0
  let grossProfit := wins.sum
  let grossLoss := |losses.sum|
  let averageWin := if wins ≠ [] then grossProfit / wins.length else 0
  let averageLoss := if losses ≠ [] then grossLoss / losses.length else 0
  let lossRate := 1 - winRate
  { realizedPnl := tradePnls.sum
    winRate := winRate
    profitFactor := if 0 < grossLoss then grossProfit / grossLoss else 0
    winningTrades := wins.length
    losingTrades := losses.length
    averageWin := averageWin
    averageLoss := averageLoss
    expectancy := winRate * averageWin - lossRate * averageLoss
    averageTradePnl := if tradePnls ≠ [] then tradePnls.sum / tradePnls.length else 0
    bestTradePnl := tradePnls.max?.getD 0
    worstTradePnl := tradePnls.min?.getD 0 }

/-! ### Ratios of the equity curve -/

def barReturn (previous equity : ℚ) : ℚ :=
  if previous = 0 then 0 else (equity - previous) / previous

def tradingDaysPerYear : ℚ :=
  252

/-- `_compute_risk_ratios`: the annualised Sharpe and Sortino ratios. -/
def computeRiskRatios (math : FloatMath) (equities : List ℚ) : Option ℚ × Option ℚ :=
  let equities := equities.map math.float
  let returns := List.zipWith barReturn equities equities.tail
  if returns.length < 2 then (none, none)
  else
    let mean := SampleStatistics.mean returns
    let variance := SampleStatistics.variance returns
    let stdDev := if 0 < variance then math.sqrt variance else 0
    let annFactor := math.sqrt tradingDaysPerYear
    let sharpe := if 0 < stdDev then some (mean / stdDev * annFactor) else none
    let downsideReturns := returns.filter (fun r => r < 0)
    let downsideVar : ℚ := (downsideReturns.map (fun r : ℚ => r ^ 2)).sum / (returns.length - 1)
    let downsideStd := math.sqrt downsideVar
    let sortino :=
      if downsideReturns ≠ [] ∧ 0 < downsideStd then some (mean / downsideStd * annFactor)
      else none
    (sharpe, sortino)

/-- `_compute_cagr`. -/
def computeCagr (math : FloatMath) (initialCash finalEquity : ℚ) :
    Option Datetime → Option Datetime → Option ℚ
  | some startTime, some endTime =>
      if initialCash ≤ 0 then none
      else
        let days := ((endTime - startTime : ℤ) : ℚ) / 86400000000
        if days < 1 then none
        else
          let years := days / 365.25
          let ratio := math.float finalEquity / math.float initialCash
          if ratio ≤ 0 then none
          else (math.power ratio (1 / years)).map (fun growth => growth - 1)
  | _, _ => none

/-- `calculate_backtest_metrics`. -/
def calculateBacktestMetrics (math : FloatMath) (initialCash finalEquity : ℚ)
    (equityCurve : List (Datetime × ℚ)) (fills : List TradeFill)
    (startTime endTime : Option Datetime) : BacktestMetrics :=
  let totalPnl := finalEquity - initialCash
  let equities := equityCurve.map Prod.snd
  let ratios := computeRiskRatios math equities
  { tradeMetrics (tradePnls fills) with
    totalReturn := if initialCash ≠ 0 then totalPnl / initialCash else 0
    totalPnl := totalPnl
    unrealizedPnl := 0
    maxDrawdown := maxDrawdown equities
    tradeCount := fills.length
    totalFees := (fills.map (fun fill => fill.fees)).sum
    sharpeRatio := ratios.1
    sortinoRatio := ratios.2
    cagr := computeCagr math initialCash finalEquity startTime endTime }

end TradingEngine.Backtest
