/-
Two accounts of the realized P&L.

The portfolio books a sale against the average cost of its position, the metrics against the
first shares that were ever bought of the symbol, however many of them are sold already.  When
everything is sold the portfolio has booked the cost of all shares, and the metrics agree
exactly when the first shares of all sales happen to cost the same.
-/

import TradingEngine.Backtest.Metrics
import TradingEngine.Backtest.PortfolioIdentity
import TradingEngine.Backtest.TradeMetrics
import TradingEngine.General.FifoLots

namespace TradingEngine.Backtest

open Domain BacktestPortfolio EventRun FifoLots
open Signals (Side)

/-! ### Long-only fills -/

/-- The moves of the shares of each symbol, with their prices. -/
def fillMoves : Moves TradeFill String ℚ :=
  { key := fun fill => fill.symbol
    sells := fun fill => fill.side = .sell
    quantity := fun fill => fill.quantity
    label := fun fill => fill.price }

/-- Sells never exceed what is held. -/
def LongOnly (fills : List TradeFill) : Prop :=
  fillMoves.NeverOversells (fun _ => 0) fills

instance (fills : List TradeFill) : Decidable (LongOnly fills) :=
  inferInstanceAs (Decidable (fillMoves.NeverOversells _ fills))

/-- Every symbol is flat at the end. -/
def EndsFlat (fills : List TradeFill) : Prop :=
  fillMoves.EndsFlat fills

instance (fills : List TradeFill) : Decidable (EndsFlat fills) :=
  inferInstanceAs (Decidable (fillMoves.EndsFlat fills))

def buys (fills : List TradeFill) : List TradeFill :=
  fills.filter (fun fill => fillMoves.sells fill = false)

def sells (fills : List TradeFill) : List TradeFill :=
  fills.filter (fun fill => fillMoves.sells fill = true)

def valueOf (fills : List TradeFill) : ℚ :=
  (fills.map grossValue).sum

def feesOf (fills : List TradeFill) : ℚ :=
  (fills.map (fun fill => fill.fees)).sum

theorem feesOf_sides (fills : List TradeFill) :
    feesOf fills = feesOf (buys fills) + feesOf (sells fills) :=
  Moves.sum_sides fillMoves fills (fun fill => fill.fees)

/-! ### The portfolio -/

section Portfolio

variable {portfolio : BacktestPortfolio} {holdings : String → ℕ} {fill : TradeFill}
  {fills : List TradeFill}

def quantityAt (portfolio : BacktestPortfolio) (symbol : String) : ℤ :=
  ((portfolio.positions.get? symbol).map (fun pos => pos.quantity)).getD 0

/-- The positions are what is held. -/
def Holds (portfolio : BacktestPortfolio) (holdings : String → ℕ) : Prop :=
  ∀ symbol, quantityAt portfolio symbol = holdings symbol

theorem positionFor_quantity (portfolio : BacktestPortfolio) (fill : TradeFill) :
    (portfolio.positionFor fill).quantity = quantityAt portfolio fill.symbol := by
  unfold positionFor quantityAt
  cases portfolio.positions.get? fill.symbol <;> rfl

theorem accepted_of_covered (held : Holds portfolio holdings)
    (covered : fillMoves.Covered holdings fill) :
    ¬ Oversells (portfolio.positionFor fill) fill ∧
      (OpensOrAdds (portfolio.positionFor fill) fill ↔ fill.side = .buy) := by
  have quantity := (positionFor_quantity portfolio fill).trans (held fill.symbol)
  have some_traded := fill.quantity_pos
  unfold Oversells OpensOrAdds
  rw [quantity]
  cases side : fill.side with
  | buy => simp
  | sell =>
      have enough : fill.quantity ≤ holdings fill.symbol :=
        covered (by simp [fillMoves, side])
      constructor
      · rintro ⟨_sell, _long, short⟩
        omega
      · simp
        omega

theorem holds_afterFill (held : Holds portfolio holdings)
    (covered : fillMoves.Covered holdings fill) :
    Holds (portfolio.afterFill fill) (fillMoves.hold holdings fill) := by
  have accepted := (accepted_of_covered held covered).1
  have quantity := (positionFor_quantity portfolio fill).trans (held fill.symbol)
  intro symbol
  unfold quantityAt
  rw [afterFill_get?]
  by_cases same : symbol = fill.symbol
  · subst same
    rw [if_pos ⟨rfl, accepted⟩, Option.map_some, Option.getD_some, afterPosition_quantity,
      quantity]
    unfold signedQuantity
    cases side : fill.side with
    | buy => simp [Moves.hold, fillMoves, side]
    | sell =>
        have enough : fill.quantity ≤ holdings fill.symbol :=
          covered (by simp [fillMoves, side])
        simp [Moves.hold, fillMoves, side]
        omega
  · have elsewhere : fillMoves.hold holdings fill symbol = holdings symbol :=
      Moves.hold_of_ne (Ne.symm same)
    rw [if_neg (fun both => same both.1), elsewhere]
    exact held symbol

theorem holds_run (held : Holds portfolio holdings)
    (covered : fillMoves.NeverOversells holdings fills) :
    Holds (run afterFill portfolio fills) (run fillMoves.hold holdings fills) := by
  have keeps (portfolio : BacktestPortfolio) (holdings : String → ℕ) (fill : TradeFill)
      (allowed : fillMoves.Covered holdings fill) (held : Holds portfolio holdings) :
      Holds (portfolio.afterFill fill) (fillMoves.hold holdings fill) :=
    holds_afterFill held allowed
  exact run_simulation Holds keeps covered held

theorem longOnly_run (held : Holds portfolio holdings)
    (covered : fillMoves.NeverOversells holdings fills) :
    (run afterFill portfolio fills).cash + valueOf (buys fills) + feesOf fills =
        portfolio.cash + valueOf (sells fills) ∧
      openingFees portfolio fills = feesOf (buys fills) := by
  induction fills generalizing portfolio holdings with
  | nil => exact ⟨by simp [valueOf, feesOf, buys, sells], by simp [openingFees, feesOf, buys]⟩
  | cons fill rest ih =>
      obtain ⟨allowed, later⟩ := covered
      obtain ⟨accepted, opens⟩ := accepted_of_covered held allowed
      obtain ⟨cash, fees⟩ := ih (holds_afterFill held allowed) later
      have moved : (portfolio.afterFill fill).cash = portfolio.cash + cashFlow fill := by
        rw [BacktestPortfolio.afterFill, applyFill_of_accepted accepted]
        rfl
      rw [moved] at cash
      refine ⟨?_, ?_⟩
      · rw [run_cons]
        cases side : fill.side with
        | buy =>
            simp [valueOf, feesOf, buys, sells, fillMoves, cashFlow, signedQuantity, grossValue,
              side] at cash ⊢
            linarith
        | sell =>
            simp [valueOf, feesOf, buys, sells, fillMoves, cashFlow, signedQuantity, grossValue,
              side] at cash ⊢
            linarith
      · rw [openingFees, fees, openingFee]
        cases side : fill.side with
        | buy =>
            rw [if_pos (opens.mpr side)]
            simp [feesOf, buys, fillMoves, side]
        | sell =>
            have reduces : ¬ OpensOrAdds (portfolio.positionFor fill) fill := by
              rw [opens, side]
              exact Side.noConfusion
            rw [if_neg reduces]
            simp [feesOf, buys, fillMoves, side]

theorem realizedTotal_of_flat {initialCash : ℚ} {product : ProductType}
    {start : BacktestPortfolio} (created : new initialCash product = .ok start)
    (longOnly : LongOnly fills) (flat : EndsFlat fills) :
    realizedTotal (run afterFill start fills) =
      valueOf (sells fills) - valueOf (buys fills) - feesOf (sells fills) := by
  obtain ⟨_cash, noPositions, _noFills⟩ := new_eq_ok created
  have initial : Holds start (fun _ => 0) := by
    intro symbol
    rw [quantityAt, noPositions]
    rfl
  have held := holds_run initial longOnly
  obtain ⟨cash, fees⟩ := longOnly_run initial longOnly
  have conserved := run_bookTotal start fills
  have empty : bookTotal start = 0 := by
    rw [bookTotal, noPositions]
    rfl
  have closed : bookTotal (run afterFill start fills) +
      realizedTotal (run afterFill start fills) = 0 := by
    rw [bookTotal, realizedTotal, ← OrderedDict.total_add]
    have nothing : (run afterFill start fills).positions.total
        (fun _symbol _pos => (0 : ℚ)) = 0 := by
      simp [OrderedDict.total]
    rw [← nothing]
    apply OrderedDict.total_congr
    intro symbol pos found
    have quantity := held symbol
    rw [Moves.hold_of_flat longOnly flat, quantityAt, found] at quantity
    have none_held : pos.quantity = 0 := quantity
    rw [bookValue, none_held]
    push_cast
    ring
  rw [empty, add_zero, fees] at conserved
  rw [feesOf_sides] at cash
  linarith

end Portfolio

/-! ### The metrics -/

section Metrics

variable {fills : List TradeFill}

theorem computeCostBasis_eq (lots : List (ℕ × ℚ)) (remaining : ℕ) :
    computeCostBasis lots remaining =
      ((units Prod.fst Prod.snd lots).take remaining).sum := by
  induction lots generalizing remaining with
  | nil => simp [computeCostBasis, units]
  | cons lot rest ih =>
      obtain ⟨quantity, price⟩ := lot
      rw [take_units_cons, List.sum_append, List.sum_replicate, nsmul_eq_mul, computeCostBasis]
      dsimp only
      rw [ih]
      by_cases done : remaining = 0
      · simp [done]
      · have after : remaining - min quantity remaining = remaining - quantity := by omega
        rw [if_neg done, after, min_comm remaining quantity]

def firstSharesCost (fills : List TradeFill) (symbol : String) (quantity : ℕ) : ℚ :=
  ((fillMoves.bought fills symbol).take quantity).sum

theorem queue_insert (queue : BuyQueue) (symbol other : String) (lots : List (ℕ × ℚ)) :
    BuyQueue.of (queue.insert symbol lots) other =
      if other = symbol then lots else BuyQueue.of queue other :=
  OrderedDict.getD_get?_insert _ _ _ _ _

/-- The buys seen so far are in the queue, and no more than they is held. -/
structure Queued (queue : BuyQueue) (seen : List TradeFill) (holdings : String → ℕ) : Prop where
  lots : ∀ symbol, BuyQueue.of queue symbol =
    (fillMoves.buysOf seen symbol).map (fun fill => (fill.quantity, fill.price))
  within : ∀ symbol, holdings symbol ≤ (fillMoves.bought seen symbol).length

variable {queue : BuyQueue} {seen rest : List TradeFill} {holdings : String → ℕ}
  {fill : TradeFill}

theorem buysOf_concat (seen : List TradeFill) (fill : TradeFill) (symbol : String) :
    fillMoves.buysOf (seen ++ [fill]) symbol =
      fillMoves.buysOf seen symbol ++
        if fill.side = .buy ∧ symbol = fill.symbol then [fill] else [] := by
  rw [Moves.buysOf, List.filter_append, ← Moves.buysOf]
  congr 1
  by_cases here : fill.symbol = symbol
  · cases side : fill.side <;> simp [fillMoves, here, side]
  · simp [fillMoves, here, Ne.symm here]

theorem Queued.costBasis (queued : Queued queue seen holdings) (later : List TradeFill)
    {symbol : String} {quantity : ℕ} (enough : quantity ≤ holdings symbol) :
    computeCostBasis (BuyQueue.of queue symbol) quantity =
      firstSharesCost (seen ++ later) symbol quantity := by
  rw [computeCostBasis_eq, queued.lots, units_map, firstSharesCost, Moves.bought_append,
    List.take_append_of_le_length (enough.trans (queued.within symbol))]
  rfl

theorem Queued.matchFill (queued : Queued queue seen holdings) (pnls : List ℚ)
    (fill : TradeFill) :
    Queued (matchFill (queue, pnls) fill).1 (seen ++ [fill]) (fillMoves.hold holdings fill) := by
  refine { lots := fun symbol => ?_, within := Moves.hold_le_bought queued.within fill }
  unfold TradingEngine.Backtest.matchFill
  cases side : fill.side with
  | buy =>
      dsimp only
      rw [queue_insert, buysOf_concat, queued.lots, queued.lots]
      by_cases same : symbol = fill.symbol
      · simp [same, side]
      · simp [same]
  | sell => simpa [buysOf_concat, side] using queued.lots symbol

theorem sum_matchFill (queued : Queued queue seen holdings) (pnls : List ℚ)
    (covered : fillMoves.NeverOversells holdings fills) :
    (fills.foldl matchFill (queue, pnls)).2.sum = pnls.sum + valueOf (sells fills) -
      ((sells fills).map
        (fun sell => firstSharesCost (seen ++ fills) sell.symbol sell.quantity)).sum -
      feesOf (sells fills) := by
  induction fills generalizing queue seen holdings pnls with
  | nil => simp [valueOf, feesOf, sells]
  | cons fill rest ih =>
      obtain ⟨allowed, later⟩ := covered
      have next := queued.matchFill pnls fill
      have whole : seen ++ [fill] ++ rest = seen ++ fill :: rest := List.append_cons _ _ _ |>.symm
      rw [List.foldl_cons]
      cases side : fill.side with
      | buy =>
          have step : matchFill (queue, pnls) fill =
              ((matchFill (queue, pnls) fill).1, pnls) := by
            unfold TradingEngine.Backtest.matchFill
            rw [side]
          rw [step, ih next pnls later, whole]
          simp [sells, fillMoves, side]
      | sell =>
          have enough : fill.quantity ≤ holdings fill.symbol :=
            allowed (by simp [fillMoves, side])
          have step : matchFill (queue, pnls) fill =
              ((matchFill (queue, pnls) fill).1,
                pnls ++ [fill.quantity * fill.price -
                  firstSharesCost (seen ++ fill :: rest) fill.symbol fill.quantity -
                    fill.fees]) := by
            rw [← queued.costBasis (fill :: rest) enough]
            unfold TradingEngine.Backtest.matchFill
            rw [side]
          rw [step, ih next _ later, whole]
          simp [sells, fillMoves, side, valueOf, feesOf, grossValue]
          ring

theorem sum_tradePnls (longOnly : LongOnly fills) :
    (tradePnls fills).sum = valueOf (sells fills) -
      ((sells fills).map (fun sell => firstSharesCost fills sell.symbol sell.quantity)).sum -
      feesOf (sells fills) := by
  have start : Queued OrderedDict.empty [] (fun _ => 0) :=
    { lots := fun _symbol => rfl
      within := fun _symbol => Nat.zero_le _ }
  rw [tradePnls, sum_matchFill start [] longOnly, List.sum_nil, zero_add]
  rfl

end Metrics

/-! ### Where the accounts agree -/

section Agreement

variable {fills : List TradeFill}

/-- The metrics report what the portfolio has realized exactly when the first shares of all
sales cost as much as all shares. -/
theorem realizedPnl_agrees_iff (math : FloatMath) (initialCash finalEquity : ℚ)
    (equityCurve : List (Datetime × ℚ)) (startTime endTime : Option Datetime)
    {product : ProductType} {start : BacktestPortfolio}
    (created : new initialCash product = .ok start) (longOnly : LongOnly fills)
    (flat : EndsFlat fills) :
    (calculateBacktestMetrics math initialCash finalEquity equityCurve fills startTime
          endTime).realizedPnl = realizedTotal (run afterFill start fills) ↔
      ((sells fills).map (fun sell => firstSharesCost fills sell.symbol sell.quantity)).sum =
        valueOf (buys fills) := by
  change (tradePnls fills).sum = _ ↔ _
  rw [sum_tradePnls longOnly, realizedTotal_of_flat created longOnly flat]
  constructor
  · intro agree
    linarith
  · intro costs
    linarith

theorem firstSharesCost_of_flat (flat : EndsFlat fills) {fill : TradeFill}
    (member : fill ∈ fills) :
    firstSharesCost fills fill.symbol (fillMoves.sold fills fill.symbol) =
      valueOf (fillMoves.buysOf fills fill.symbol) := by
  have all := Moves.sum_take_sold_of_flat flat member fillMoves.label
  simp only [nsmul_eq_mul] at all
  exact all

theorem sum_firstSharesCost_of_one_sale (flat : EndsFlat fills)
    (single : ∀ symbol, (fillMoves.sellsOf fills symbol).length ≤ 1) :
    ((sells fills).map (fun sell => firstSharesCost fills sell.symbol sell.quantity)).sum =
      valueOf (buys fills) := by
  have sales := Moves.sum_sellsOf fillMoves fills
    (fun sell => firstSharesCost fills sell.symbol sell.quantity)
  have costs := Moves.sum_buysOf fillMoves fills grossValue
  rw [sells, ← sales, valueOf, buys, ← costs]
  refine Finset.sum_congr rfl fun symbol listed => ?_
  obtain ⟨fill, member, rfl⟩ := List.mem_map.mp (List.mem_toFinset.mp listed)
  have whole := firstSharesCost_of_flat flat member
  cases sold : fillMoves.sellsOf fills (fillMoves.key fill) with
  | nil =>
      have nothing : fillMoves.sold fills fill.symbol = 0 := by
        rw [Moves.sold]
        exact congrArg (fun sales => (sales.map fillMoves.quantity).sum) sold
      rw [nothing] at whole
      exact whole
  | cons sale others =>
      have alone : others = [] := by
        have bound := single (fillMoves.key fill)
        rw [sold, List.length_cons] at bound
        exact List.eq_nil_of_length_eq_zero (by omega)
      subst alone
      have own : sale.symbol = fill.symbol := by
        have listed_sale : sale ∈ fillMoves.sellsOf fills (fillMoves.key fill) := by
          rw [sold]
          exact List.mem_singleton_self _
        exact (of_decide_eq_true (List.mem_filter.mp listed_sale).2).1
      have amount : fillMoves.sold fills fill.symbol = sale.quantity := by
        rw [Moves.sold]
        exact congrArg (fun sales => (sales.map fillMoves.quantity).sum) sold
      rw [amount] at whole
      rw [List.map_singleton, List.sum_singleton, own]
      exact whole

end Agreement

/-! ### Two buys and two sales -/

def twiceSold : List TradeFill :=
  [plainFill "INFY" .buy 1 100, plainFill "INFY" .buy 1 120, plainFill "INFY" .sell 1 130,
    plainFill "INFY" .sell 1 130]

def freshPortfolio : BacktestPortfolio :=
  { cash := 1000
    product := .cnc
    positions := OrderedDict.empty
    fills := []
    equityCurve := []
    totalFees := 0 }

theorem freshPortfolio_created : new 1000 .cnc = .ok freshPortfolio :=
  if_neg (by norm_num)

/-- Both sales are charged the share that cost 100. -/
theorem twiceSold_disagrees :
    new 1000 .cnc = .ok freshPortfolio ∧ LongOnly twiceSold ∧ EndsFlat twiceSold ∧
      (calculateBacktestMetrics exactMath 1000 1040 [] twiceSold none none).realizedPnl = 60 ∧
      realizedTotal (run afterFill freshPortfolio twiceSold) = 40 ∧
      (calculateBacktestMetrics exactMath 1000 1040 [] twiceSold none none).realizedPnl ≠
        realizedTotal (run afterFill freshPortfolio twiceSold) := by
  have measured :
      (calculateBacktestMetrics exactMath 1000 1040 [] twiceSold none none).realizedPnl = 60 := by
    decide +kernel
  have booked : realizedTotal (run afterFill freshPortfolio twiceSold) = 40 := by
    decide +kernel
  refine ⟨freshPortfolio_created, by decide, by decide, measured, booked, ?_⟩
  rw [measured, booked]
  decide

def soldOnce : List TradeFill :=
  [plainFill "INFY" .buy 1 100, plainFill "INFY" .buy 1 120, plainFill "INFY" .sell 2 130]

theorem soldOnce_agrees_iff :
    (calculateBacktestMetrics exactMath 1000 1040 [] soldOnce none none).realizedPnl =
        realizedTotal (run afterFill freshPortfolio soldOnce) ↔
      ((sells soldOnce).map
          (fun sell => firstSharesCost soldOnce sell.symbol sell.quantity)).sum =
        valueOf (buys soldOnce) :=
  realizedPnl_agrees_iff exactMath 1000 1040 [] none none freshPortfolio_created (by decide)
    (by decide)

end TradingEngine.Backtest
