/-
The portfolio of a backtest.

A fill opens, adds to, reduces, closes or covers the position of its symbol; a sale
of more than is held long is rejected.  Money is in exact rationals.
-/

import TradingEngine.Domain.Models
import TradingEngine.General.OrderedDict

namespace TradingEngine.Backtest

open Domain
open Signals (Side)

/-- `_PositionState`; a negative quantity is short. -/
structure PositionState where
  symbol : String
  exchange : Exchange
  product : ProductType
  quantity : ℤ
  averagePrice : ℚ
  realizedPnl : ℚ
  unrealizedPnl : ℚ
  lastPrice : Option ℚ
  updatedAt : Datetime
deriving DecidableEq

structure BacktestPortfolio where
  cash : ℚ
  product : ProductType
  positions : OrderedDict String PositionState
  fills : List TradeFill
  equityCurve : List (Datetime × ℚ)
  totalFees : ℚ

/-- `InsufficientPositionError`. -/
structure InsufficientPosition where
  message : String
deriving DecidableEq

/-- The `ValueError` "initial_cash must be positive, got {initialCash}". -/
structure InitialCashError where
  initialCash : ℚ
deriving DecidableEq

def newPosition (product : ProductType) (fill : TradeFill) : PositionState :=
  { symbol := fill.symbol
    exchange := fill.exchange
    product := product
    quantity := 0
    averagePrice := 0
    realizedPnl := 0
    unrealizedPnl := 0
    lastPrice := none
    updatedAt := fill.timestamp }

def grossValue (fill : TradeFill) : ℚ :=
  fill.quantity * fill.price

/-! ### The four cases of a fill -/

/-- A `BUY` on a short position. -/
def coverShort (pos : PositionState) (fill : TradeFill) : PositionState :=
  let coverQty : ℚ := (min (fill.quantity : ℤ) (-pos.quantity) : ℤ)
  let quantity := pos.quantity + fill.quantity
  { pos with
    quantity := quantity
    averagePrice :=
      if 0 < quantity then fill.price
      else if quantity = 0 then 0
      else pos.averagePrice
    realizedPnl := pos.realizedPnl +
      (coverQty * pos.averagePrice - coverQty * fill.price - fill.fees)
    updatedAt := fill.timestamp }

/-- A `BUY` on a flat or long position. -/
def addLong (pos : PositionState) (fill : TradeFill) : PositionState :=
  let quantity := pos.quantity + fill.quantity
  { pos with
    quantity := quantity
    averagePrice := (pos.quantity * pos.averagePrice + grossValue fill) / quantity
    updatedAt := fill.timestamp }

/-- A `SELL` on a long position that holds enough. -/
def reduceLong (pos : PositionState) (fill : TradeFill) : PositionState :=
  let quantity := pos.quantity - fill.quantity
  { pos with
    quantity := quantity
    averagePrice := if quantity = 0 then 0 else pos.averagePrice
    realizedPnl := pos.realizedPnl +
      (grossValue fill - fill.quantity * pos.averagePrice - fill.fees)
    updatedAt := fill.timestamp }

/-- A `SELL` on a flat or short position. -/
def addShort (pos : PositionState) (fill : TradeFill) : PositionState :=
  let existingShort : ℚ := (-pos.quantity : ℤ)
  { pos with
    quantity := pos.quantity - fill.quantity
    averagePrice := (existingShort * pos.averagePrice + grossValue fill) /
      (existingShort + fill.quantity)
    updatedAt := fill.timestamp }

def insufficientText (pos : PositionState) (fill : TradeFill) : String :=
  "Cannot sell " ++ toString fill.quantity ++ " of " ++ fill.symbol ++ ": only " ++
    toString pos.quantity ++ " held long. Close long before going short."

namespace BacktestPortfolio

def new (initialCash : ℚ) (product : ProductType) :
    Except InitialCashError BacktestPortfolio :=
  if initialCash ≤ 0 then .error { initialCash := initialCash }
  else
    .ok
      { cash := initialCash
        product := product
        positions := OrderedDict.empty
        fills := []
        equityCurve := []
        totalFees := 0 }

/-- The position of the symbol of a fill, stored by `setdefault`. -/
def positionFor (portfolio : BacktestPortfolio) (fill : TradeFill) : PositionState :=
  (portfolio.positions.get? fill.symbol).getD (newPosition portfolio.product fill)

def setDefault (portfolio : BacktestPortfolio) (fill : TradeFill) : BacktestPortfolio :=
  match portfolio.positions.get? fill.symbol with
  | some _ => portfolio
  | none =>
      { portfolio with
        positions :=
          portfolio.positions.insert fill.symbol (newPosition portfolio.product fill) }

/-- The new position with its effect on cash, fees and the list of fills. -/
def book (portfolio : BacktestPortfolio) (fill : TradeFill) (pos : PositionState) (cash : ℚ) :
    BacktestPortfolio :=
  { portfolio with
    cash := cash
    positions := portfolio.positions.insert fill.symbol pos
    fills := portfolio.fills ++ [fill]
    totalFees := portfolio.totalFees + fill.fees }

def applyFill (portfolio : BacktestPortfolio) (fill : TradeFill) :
    Except InsufficientPosition Unit × BacktestPortfolio :=
  let pos := portfolio.positionFor fill
  let portfolio := portfolio.setDefault fill
  match fill.side with
  | .buy =>
      let cash := portfolio.cash - (grossValue fill + fill.fees)
      if pos.quantity < 0 then (.ok (), portfolio.book fill (coverShort pos fill) cash)
      else (.ok (), portfolio.book fill (addLong pos fill) cash)
  | .sell =>
      let cash := portfolio.cash + (grossValue fill - fill.fees)
      if 0 < pos.quantity then
        if pos.quantity < fill.quantity then
          (.error { message := insufficientText pos fill }, portfolio)
        else (.ok (), portfolio.book fill (reduceLong pos fill) cash)
      else (.ok (), portfolio.book fill (addShort pos fill) cash)

/-- Cash and the value of the open positions; a missing price is the average price. -/
def totalEquity (portfolio : BacktestPortfolio) (latestPrices : OrderedDict String ℚ) : ℚ :=
  portfolio.cash + portfolio.positions.total (fun symbol pos =>
    if pos.quantity ≠ 0 then
      pos.quantity * (latestPrices.get? symbol).getD pos.averagePrice
    else 0)

def afterFill (portfolio : BacktestPortfolio) (fill : TradeFill) : BacktestPortfolio :=
  (portfolio.applyFill fill).2

/-! ### Marks and snapshots -/

/-- The loop body of `mark_to_market`: a position that is open and has a price. -/
def markPosition (latestPrices : OrderedDict String ℚ) (symbol : String) (pos : PositionState) :
    PositionState :=
  match latestPrices.get? symbol with
  | none => pos
  | some price =>
      if pos.quantity ≠ 0 then
        { pos with
          lastPrice := some price
          unrealizedPnl := pos.quantity * price - pos.quantity * pos.averagePrice }
      else pos

def markToMarket (portfolio : BacktestPortfolio) (timestamp : Datetime)
    (latestPrices : OrderedDict String ℚ) : BacktestPortfolio :=
  let marked :=
    { portfolio with positions := portfolio.positions.mapValues (markPosition latestPrices) }
  { marked with
    equityCurve := marked.equityCurve ++ [(timestamp, marked.totalEquity latestPrices)] }

/-- The record that `to_position` builds. -/
def positionView (pos : PositionState) : Domain.Position :=
  { symbol := pos.symbol
    exchange := pos.exchange
    product := pos.product
    quantity := pos.quantity
    averagePrice := pos.averagePrice
    lastPrice := pos.lastPrice
    realizedPnl := pos.realizedPnl
    unrealizedPnl := pos.unrealizedPnl
    updatedAt := pos.updatedAt }

/-- `to_position`, with what `Position` checks. -/
def toPosition (py : Python) (pos : PositionState) : Except EngineError Domain.Position :=
  if py.isBlank pos.symbol then .error (.raised (.validationError "symbol"))
  else if pos.averagePrice < 0 then .error (.raised (.validationError "average_price"))
  else if pos.lastPrice.any (fun price => price < 0) then
    .error (.raised (.validationError "last_price"))
  else .ok (positionView pos)

/-- `last_price or average_price`. -/
def exposurePrice (pos : PositionState) : ℚ :=
  match pos.lastPrice with
  | none => pos.averagePrice
  | some price => if price = 0 then pos.averagePrice else price

def grossExposure (portfolio : BacktestPortfolio) : ℚ :=
  portfolio.positions.total (fun _symbol pos =>
      if 0 < pos.quantity then pos.quantity * exposurePrice pos else 0) +
    portfolio.positions.total (fun _symbol pos =>
      if pos.quantity < 0 then (-pos.quantity : ℤ) * exposurePrice pos else 0)

/-- `get_snapshot`; the record rejects a negative gross exposure. -/
def getSnapshot (portfolio : BacktestPortfolio) (py : Python) :
    Except EngineError PortfolioSnapshot :=
  match portfolio.positions.entries.mapM (fun entry => toPosition py entry.2) with
  | .error raised => .error raised
  | .ok positions =>
      if portfolio.grossExposure < 0 then .error (.raised (.validationError "gross_exposure"))
      else
        .ok
          { positions := positions
            realizedPnl := portfolio.positions.total (fun _symbol pos => pos.realizedPnl)
            unrealizedPnl := portfolio.positions.total (fun _symbol pos => pos.unrealizedPnl) }

/-! ### What a snapshot shows -/

private theorem mapM_toPosition {py : Python} {entries : List (String × PositionState)}
    {positions : List Domain.Position}
    (mapped : entries.mapM (fun entry => toPosition py entry.2) = .ok positions) :
    positions = entries.map (fun entry => positionView entry.2) := by
  induction entries generalizing positions with
  | nil =>
      cases mapped
      rfl
  | cons entry rest ih =>
      rw [List.mapM_cons] at mapped
      cases first : toPosition py entry.2 with
      | error raised =>
          rw [first] at mapped
          cases mapped
      | ok position =>
          cases others : rest.mapM (fun entry => toPosition py entry.2) with
          | error raised =>
              rw [first, others] at mapped
              cases mapped
          | ok later =>
              rw [first, others] at mapped
              have shown : position = positionView entry.2 := by
                unfold toPosition at first
                split_ifs at first
                exact (Except.ok.inj first).symm
              have same : position :: later = positions := Except.ok.inj mapped
              rw [← same, shown, ih others, List.map_cons]

theorem getSnapshot_eq {portfolio : BacktestPortfolio} {py : Python}
    {snapshot : PortfolioSnapshot} (taken : portfolio.getSnapshot py = .ok snapshot) :
    snapshot.positions = portfolio.positions.entries.map (fun entry => positionView entry.2) ∧
      snapshot.realizedPnl = portfolio.positions.total (fun _symbol pos => pos.realizedPnl) ∧
      snapshot.unrealizedPnl =
        portfolio.positions.total (fun _symbol pos => pos.unrealizedPnl) := by
  unfold getSnapshot at taken
  split at taken
  · cases taken
  · rename_i positions mapped
    split_ifs at taken
    cases taken
    exact ⟨mapM_toPosition mapped, rfl, rfl⟩

end BacktestPortfolio

end TradingEngine.Backtest
