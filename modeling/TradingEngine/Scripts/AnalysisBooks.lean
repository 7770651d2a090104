/-
The analysis of a backtest against the books of the engine.

`run_backtest` hands the fills of an engine run to the analysis.  Pairing them moves every gain
from the open lots to a trade, so the net P&L of the trades and what the open lots have gained
by the last closes are all that the run has made.
-/

import TradingEngine.Backtest.RunAccounts
import TradingEngine.Scripts.ReportAnalysis
import TradingEngine.Scripts.TradeReconstruction

namespace TradingEngine.Scripts

open EventRun FifoLots
open Signals (Side)

variable {T : Type}

/-! ### Gains of trades and of open lots -/

def lotGain (price : ℚ) (lot : ReportFill T) : ℚ :=
  lot.quantity * (price - lot.price) - lot.fees

def fillGain (price : String → ℚ) (fill : ReportFill T) : ℚ :=
  match fill.side with
  | .buy => lotGain (price fill.symbol) fill
  | .sell => fill.quantity * (fill.price - price fill.symbol) - fill.fees

/-- What the buys that are still open have gained. -/
def openGain (price : String → ℚ) (pairing : Pairing T) : ℚ :=
  pairing.buyQueue.total (fun symbol queue => (queue.map (lotGain (price symbol))).sum)

def bookedGain (price : String → ℚ) (pairing : Pairing T) : ℚ :=
  (pairing.trades.map PairedTrade.netPnl).sum + openGain price pairing

theorem sum_lotGain (price : ℚ) (lots : List (ReportFill T)) :
    (lots.map (lotGain price)).sum =
      (shares lots).length * price - (shares lots).sum.1 - (shares lots).sum.2 := by
  induction lots with
  | nil => simp [shares, units]
  | cons lot rest ih =>
      have whole : (lot.quantity : ℚ) ≠ 0 := by exact_mod_cast lot.quantity_pos.ne'
      have fees : (lot.quantity : ℚ) * (lot.fees / lot.quantity) = lot.fees :=
        mul_div_cancel₀ _ whole
      have first : shares (lot :: rest) = List.replicate lot.quantity lot.perShare ++ shares rest :=
        units_cons
      rw [List.map_cons, List.sum_cons, ih, first, List.length_append, List.length_replicate,
        List.sum_append, List.sum_replicate, Prod.fst_add, Prod.snd_add, Prod.smul_fst,
        Prod.smul_snd, nsmul_eq_mul, nsmul_eq_mul, Nat.cast_add]
      unfold lotGain ReportFill.perShare
      rw [fees]
      ring

theorem netPnl_closeTrade (price : ℚ) (fill : ReportFill T) (queue : List (ReportFill T))
    (enough : fill.quantity ≤ (shares queue).length) :
    (closeTrade fill (matchQueue fill queue)).netPnl +
        ((matchQueue fill queue).newQueue.map (lotGain price)).sum =
      (queue.map (lotGain price)).sum +
        (fill.quantity * (fill.price - price) - fill.fees) := by
  obtain ⟨charged, left⟩ := matchQueue_spec fill queue
  have cost : (matchQueue fill queue).cost = ((shares queue).take fill.quantity).sum.1 :=
    congrArg Prod.fst charged
  have entryFees : (matchQueue fill queue).entryFees =
      ((shares queue).take fill.quantity).sum.2 :=
    congrArg Prod.snd charged
  have split := List.sum_take_add_sum_drop (shares queue) fill.quantity
  have lengths : (shares queue).length =
      fill.quantity + ((shares queue).drop fill.quantity).length := by
    rw [List.length_drop]
    omega
  have net : (closeTrade fill (matchQueue fill queue)).netPnl =
      fill.quantity * fill.price - (matchQueue fill queue).cost -
        ((matchQueue fill queue).entryFees + fill.fees) :=
    rfl
  rw [net, sum_lotGain, sum_lotGain, left, ← split, cost, entryFees, lengths, Prod.fst_add,
    Prod.snd_add, Nat.cast_add]
  ring

theorem openGain_insert (price : String → ℚ) (pairing : Pairing T) (symbol : String)
    (queue : List (ReportFill T)) (trades : List (PairedTrade T)) :
    openGain price { buyQueue := pairing.buyQueue.insert symbol queue, trades := trades } +
        ((pairing.queue symbol).map (lotGain (price symbol))).sum =
      openGain price pairing + (queue.map (lotGain (price symbol))).sum :=
  OrderedDict.total_insert_getD (fun symbol queue => (queue.map (lotGain (price symbol))).sum)
    queue rfl

theorem bookedGain_pairFill (price : String → ℚ) (pairing : Pairing T) (fill : ReportFill T)
    (enough : fill.side = .sell → fill.quantity ≤ (pairing.stock fill.symbol).length) :
    bookedGain price (pairFill pairing fill) = bookedGain price pairing + fillGain price fill := by
  unfold bookedGain pairFill fillGain
  cases side : fill.side with
  | buy =>
      have opened := openGain_insert price pairing fill.symbol
        (pairing.queue fill.symbol ++ [fill]) pairing.trades
      rw [List.map_append, List.sum_append, List.map_singleton, List.sum_singleton] at opened
      dsimp only
      linarith
  | sell =>
      have moved := openGain_insert price pairing fill.symbol
        (matchQueue fill (pairing.queue fill.symbol)).newQueue
        (pairing.trades ++ [closeTrade fill (matchQueue fill (pairing.queue fill.symbol))])
      have booked := netPnl_closeTrade (price fill.symbol) fill (pairing.queue fill.symbol)
        (enough side)
      dsimp only
      rw [List.map_append, List.sum_append, List.map_singleton, List.sum_singleton]
      linarith

theorem bookedGain_run (price : String → ℚ) {pairing : Pairing T} {fills : List (ReportFill T)}
    (covered : reportMoves.NeverOversells (fun symbol => (pairing.stock symbol).length) fills) :
    bookedGain price (run pairFill pairing fills) =
      bookedGain price pairing + (fills.map (fillGain price)).sum := by
  induction fills generalizing pairing with
  | nil => exact (add_zero _).symm
  | cons fill rest ih =>
      obtain ⟨allowed, later⟩ := covered
      have enough (selling : fill.side = .sell) :
          fill.quantity ≤ (pairing.stock fill.symbol).length :=
        allowed (decide_eq_true selling)
      rw [Moves.hold_length, ← (pairFill_spec pairing fill).1] at later
      rw [run_cons, ih later, bookedGain_pairFill price pairing fill enough, List.map_cons,
        List.sum_cons, add_assoc]

/-! ### A run of the engine -/

/-- A fill as `run_backtest` hands it on; in UTC its timestamp is the same instant. -/
def reportFillOf (fill : Domain.TradeFill) : ReportFill Datetime :=
  { symbol := fill.symbol
    side := fill.side
    quantity := fill.quantity
    quantity_pos := fill.quantity_pos
    price := fill.price
    fees := fill.fees
    timestamp := fill.timestamp
    exitReason := none }

theorem fillGain_reportFillOf (price : String → ℚ) (fill : Domain.TradeFill) :
    fillGain price (reportFillOf fill) = Backtest.gainOf price fill := by
  unfold fillGain lotGain Backtest.gainOf Backtest.signedQuantity
  have side : (reportFillOf fill).side = fill.side := rfl
  rw [side]
  cases fill.side with
  | buy => simp [reportFillOf]
  | sell =>
      simp [reportFillOf]
      ring

theorem openGain_of_flat (price : String → ℚ) {fills : List (ReportFill T)}
    (covered : NeverOversells fills) (flat : EndsFlat fills) :
    openGain price (pairing fills) = 0 := by
  have closed (symbol : String) :
      (((pairing fills).queue symbol).map (lotGain (price symbol))).sum = 0 := by
    have left := (pairing_spec covered symbol).2
    have balance := Moves.hold_add_sold symbol covered
    rw [Moves.hold_of_flat covered flat] at balance
    rw [List.drop_eq_nil_of_le (by omega)] at left
    rw [sum_lotGain, left]
    simp
  have weightless : openGain price (pairing fills) =
      (pairing fills).buyQueue.total (fun _symbol _queue => (0 : ℚ)) := by
    refine OrderedDict.total_congr ?_
    intro symbol queue found
    have same : (pairing fills).queue symbol = queue := by
      rw [Pairing.queue, found]
      rfl
    rw [← same]
    exact closed symbol
  rw [weightless]
  simp [OrderedDict.total]

/-- However the trades of a long-only run are grouped, the groups and the gains of the lots left
open are what the run has made. -/
theorem finalEquity_of_breakdown {σ κ : Type} {engine : Backtest.BacktestEngine σ κ}
    {product : Domain.ProductType} {initialCash : ℚ}
    (created : Backtest.BacktestPortfolio.new initialCash product = .ok engine.portfolio)
    {candles : List Domain.Bar} {report : Backtest.BacktestReport κ}
    (ran : engine.run candles = .ok report)
    (quoted : ∀ fill ∈ report.fills, ∃ bar ∈ candles, bar.symbol = fill.symbol)
    (longOnly : NeverOversells (report.fills.map reportFillOf))
    (keyFn : PairedTrade Datetime → String) :
    let fills := report.fills.map reportFillOf
    let price := fun symbol => (Backtest.lastClose (Backtest.iterBars candles) symbol).getD 0
    report.finalEquity = initialCash +
        ((breakdownBy keyFn (pairFills fills)).map (fun group => group.2.totalNetPnl)).sum +
          openGain price (pairing fills) ∧
      (EndsFlat fills → openGain price (pairing fills) = 0) := by
  intro fills price
  have grouped := (addsUp_breakdownBy keyFn (pairFills fills)).netPnl
  rw [totalNetPnl_computeMetrics] at grouped
  have booked : bookedGain price (pairing fills) =
      bookedGain price noPairs + (fills.map (fillGain price)).sum :=
    bookedGain_run price longOnly
  have gains : (fills.map (fillGain price)).sum =
      (report.fills.map (Backtest.gainOf price)).sum := by
    rw [List.map_map]
    exact congrArg List.sum
      (List.map_congr_left fun fill _member => fillGain_reportFillOf price fill)
  have nothing : bookedGain price (noPairs : Pairing Datetime) = 0 := zero_add 0
  refine ⟨?_, openGain_of_flat price longOnly⟩
  rw [Backtest.BacktestEngine.finalEquity_eq created ran quoted, grouped, ← gains, add_assoc]
  rw [nothing, zero_add] at booked
  exact congrArg _ booked.symm

/-- Ten shares bought at 100 and sold at 102 make one trade, which is all that the run makes. -/
theorem buyThenSell_finalEquity :
    ∃ report, Backtest.buyThenSell.run Backtest.twoMinutes = .ok report ∧
      report.finalEquity = 1000 +
        ((breakdownBy entrySide (pairFills (report.fills.map reportFillOf))).map
          (fun group => group.2.totalNetPnl)).sum := by
  have returned : (Backtest.buyThenSell.run Backtest.twoMinutes).toOption.map (fun report =>
      (report.fills.map Domain.TradeFill.symbol,
        decide (NeverOversells (report.fills.map reportFillOf)),
        decide (EndsFlat (report.fills.map reportFillOf)))) =
          some (["INFY", "INFY"], true, true) := by
    decide +kernel
  obtain ⟨report, found, facts⟩ := Option.map_eq_some_iff.mp returned
  obtain ⟨symbols, checks⟩ := Prod.mk.inj facts
  obtain ⟨longOnly, flat⟩ := Prod.mk.inj checks
  have ran := Backtest.toOption_eq_some_iff.mp found
  have created : Backtest.BacktestPortfolio.new 1000 .mis = .ok Backtest.buyThenSell.portfolio :=
    if_neg (by norm_num)
  obtain ⟨equity, nothingOpen⟩ := finalEquity_of_breakdown created ran (by
    intro fill member
    have own : fill.symbol ∈ ["INFY", "INFY"] := symbols ▸ List.mem_map_of_mem member
    refine ⟨Domain.flatBar "INFY" 0 100, by decide +kernel, ?_⟩
    simp only [List.mem_cons, List.not_mem_nil, or_false, or_self] at own
    exact own.symm) (of_decide_eq_true longOnly) entrySide
  refine ⟨report, ran, ?_⟩
  rw [equity, nothingOpen (of_decide_eq_true flat), add_zero]

end TradingEngine.Scripts
