/-
Unrealized gains in the snapshots of a portfolio.

A mark writes the gain of every open position that has a price.  It skips a flat
position, which therefore shows for ever what the last mark before its close wrote.
-/

import TradingEngine.Backtest.PortfolioIdentity

namespace TradingEngine.Backtest

open Domain BacktestPortfolio EventRun
open Signals (Side)

/-! ### Runs of fills and marks -/

inductive PortfolioEvent where
  | fill (fill : TradeFill)
  | mark (timestamp : Datetime) (latestPrices : OrderedDict String ℚ)

namespace BacktestPortfolio

def afterEvent (portfolio : BacktestPortfolio) : PortfolioEvent → BacktestPortfolio
  | .fill fill => portfolio.afterFill fill
  | .mark timestamp latestPrices => portfolio.markToMarket timestamp latestPrices

def gainAt (pos : PositionState) (price : ℚ) : ℚ :=
  pos.quantity * price - pos.quantity * pos.averagePrice

/-- The gain of a symbol when the events end in a mark that finds it open and priced. -/
def markedGain? (portfolio : BacktestPortfolio) (latestPrices : OrderedDict String ℚ)
    (symbol : String) : Option ℚ :=
  match portfolio.positions.get? symbol, latestPrices.get? symbol with
  | some pos, some price => if pos.quantity ≠ 0 then some (gainAt pos price) else none
  | _, _ => none

/-- The gain of a symbol at the last mark that found it open and priced, from the events
in reverse order. -/
def lastMarkedGain (start : BacktestPortfolio) (symbol : String) : List PortfolioEvent → ℚ
  | [] => 0
  | .fill _ :: earlier => lastMarkedGain start symbol earlier
  | .mark _ latestPrices :: earlier =>
      ((run afterEvent start earlier.reverse).markedGain? latestPrices symbol).getD
        (lastMarkedGain start symbol earlier)

def gainAtLastMark (start : BacktestPortfolio) (events : List PortfolioEvent)
    (symbol : String) : ℚ :=
  lastMarkedGain start symbol events.reverse

theorem gainAtLastMark_fill (start : BacktestPortfolio) (events : List PortfolioEvent)
    (fill : TradeFill) (symbol : String) :
    start.gainAtLastMark (events ++ [.fill fill]) symbol =
      start.gainAtLastMark events symbol := by
  unfold gainAtLastMark
  rw [List.reverse_append]
  rfl

theorem gainAtLastMark_mark (start : BacktestPortfolio) (events : List PortfolioEvent)
    (timestamp : Datetime) (latestPrices : OrderedDict String ℚ) (symbol : String) :
    start.gainAtLastMark (events ++ [.mark timestamp latestPrices]) symbol =
      ((run afterEvent start events).markedGain? latestPrices symbol).getD
        (start.gainAtLastMark events symbol) := by
  unfold gainAtLastMark
  rw [List.reverse_append]
  change Option.getD (markedGain? (run afterEvent start events.reverse.reverse) _ _) _ = _
  rw [List.reverse_reverse]
  rfl

theorem run_concat (start : BacktestPortfolio) (events : List PortfolioEvent)
    (event : PortfolioEvent) :
    run afterEvent start (events ++ [event]) = (run afterEvent start events).afterEvent event := by
  rw [run_append]
  rfl

theorem markToMarket_get? (portfolio : BacktestPortfolio) (timestamp : Datetime)
    (latestPrices : OrderedDict String ℚ) (symbol : String) :
    (portfolio.markToMarket timestamp latestPrices).positions.get? symbol =
      (portfolio.positions.get? symbol).map (markPosition latestPrices symbol) :=
  OrderedDict.get?_mapValues _ _ _

theorem unrealizedPnl_eq {start : BacktestPortfolio} (empty : start.positions = OrderedDict.empty)
    (events : List PortfolioEvent) (symbol : String) :
    ((run afterEvent start events).positions.get? symbol).elim 0 PositionState.unrealizedPnl =
      start.gainAtLastMark events symbol := by
  induction events using List.reverseRecOn with
  | nil =>
      rw [run_nil, empty]
      rfl
  | append_singleton events event ih =>
      rw [run_concat]
      cases event with
      | fill fill =>
          rw [gainAtLastMark_fill, ← ih]
          change (((run afterEvent start events).afterFill fill).positions.get? symbol).elim 0 _ = _
          rw [afterFill_get?]
          split_ifs with traded
          · rw [Option.elim_some, (afterPosition_marked _ _).2.1, traded.1]
            unfold positionFor
            cases (run afterEvent start events).positions.get? fill.symbol <;> rfl
          · rfl
      | mark timestamp latestPrices =>
          rw [gainAtLastMark_mark, ← ih]
          change (((run afterEvent start events).markToMarket _ _).positions.get? symbol).elim
            0 _ = _
          rw [markToMarket_get?]
          unfold markedGain? markPosition
          cases (run afterEvent start events).positions.get? symbol with
          | none => rfl
          | some pos =>
              cases latestPrices.get? symbol with
              | none => rfl
              | some price =>
                  dsimp only [Option.map_some, Option.elim_some]
                  split_ifs with isOpen
                  · rfl
                  · rfl

/-! ### The snapshot after a mark -/

/-- The sum over the open positions of quantity times last price less average price. -/
def lastPriceGain (portfolio : BacktestPortfolio) : ℚ :=
  portfolio.positions.total (fun _symbol pos =>
    if pos.quantity ≠ 0 then
      pos.quantity * (pos.lastPrice.getD pos.averagePrice - pos.averagePrice)
    else 0)

/-- What the last marks wrote for the symbols that are flat. -/
def closedGains (start : BacktestPortfolio) (events : List PortfolioEvent) : ℚ :=
  (run afterEvent start events).positions.total (fun symbol pos =>
    if pos.quantity = 0 then start.gainAtLastMark events symbol else 0)

end BacktestPortfolio

/-- Right after a mark with prices for the open symbols, the unrealized figure of the
snapshot is current exactly when the gains left behind by closed positions cancel out. -/
theorem snapshot_current_iff {initialCash : ℚ} {product : ProductType}
    {start : BacktestPortfolio} (created : new initialCash product = .ok start)
    (events : List PortfolioEvent) (timestamp : Datetime) (latestPrices : OrderedDict String ℚ)
    (covered : PricesCover latestPrices (run afterEvent start events)) {py : Python}
    {snapshot : PortfolioSnapshot}
    (taken : ((run afterEvent start events).markToMarket timestamp latestPrices).getSnapshot py =
      .ok snapshot) :
    snapshot.unrealizedPnl =
        ((run afterEvent start events).markToMarket timestamp latestPrices).lastPriceGain ↔
      start.closedGains events = 0 := by
  have empty := (new_eq_ok created).2.1
  have shown : snapshot.unrealizedPnl =
      ((run afterEvent start events).markToMarket timestamp latestPrices).lastPriceGain +
        start.closedGains events := by
    rw [(getSnapshot_eq taken).2.2]
    unfold lastPriceGain closedGains markToMarket
    dsimp only
    rw [OrderedDict.total_mapValues, OrderedDict.total_mapValues, ← OrderedDict.total_add]
    apply OrderedDict.total_congr
    intro symbol pos held
    have before := unrealizedPnl_eq empty events symbol
    rw [held, Option.elim_some] at before
    unfold markPosition
    by_cases flat : pos.quantity = 0
    · rw [← before]
      cases latestPrices.get? symbol <;> simp [flat]
    · have member := covered symbol pos held flat
      cases found : latestPrices.get? symbol with
      | none => exact absurd member (OrderedDict.get?_eq_none_iff.mp found)
      | some price =>
          simp only [flat, ne_eq, not_false_eq_true, if_true, if_false, Option.getD_some, add_zero]
          ring
  rw [shown]
  exact add_eq_left

/-! ### A gain that outlives its position -/

def closedTrade : List PortfolioEvent :=
  [.fill (sampleFill .buy 2 Nat.two_pos), .mark 0 turningPrices,
    .fill (sampleFill .sell 2 Nat.two_pos)]

def closedMarked : BacktestPortfolio :=
  (run afterEvent turningStart closedTrade).markToMarket 60 turningPrices

def closedSnapshot : PortfolioSnapshot :=
  { positions := closedMarked.positions.entries.map (fun entry => positionView entry.2)
    realizedPnl := closedMarked.positions.total (fun _symbol pos => pos.realizedPnl)
    unrealizedPnl := closedMarked.positions.total (fun _symbol pos => pos.unrealizedPnl) }

theorem closedTrade_covered :
    PricesCover turningPrices (run afterEvent turningStart closedTrade) := by
  intro symbol pos held _open
  have traded : (run afterEvent turningStart closedTrade).positions.keys = ["INFY"] := by
    rfl
  have member := OrderedDict.mem_keys_of_mem (OrderedDict.get?_eq_some_iff.mp held)
  rw [traded] at member
  exact member

theorem closedTrade_current_iff :
    closedSnapshot.unrealizedPnl = closedMarked.lastPriceGain ↔
      turningStart.closedGains closedTrade = 0 := by
  have created : new 1000 .mis = .ok turningStart := if_neg (by norm_num)
  have taken : closedMarked.getSnapshot Python.ascii = .ok closedSnapshot := by
    decide +kernel
  exact snapshot_current_iff created closedTrade 60 turningPrices closedTrade_covered taken

/-- The two shares are sold, yet the snapshot still shows their gain of twenty. -/
theorem closedTrade_not_current :
    PricesCover turningPrices (run afterEvent turningStart closedTrade) ∧
      closedMarked.getSnapshot Python.ascii = .ok closedSnapshot ∧
      closedSnapshot.unrealizedPnl = 20 ∧ closedMarked.lastPriceGain = 0 := by
  refine ⟨closedTrade_covered, ?_, ?_, ?_⟩ <;> decide +kernel

end TradingEngine.Backtest
