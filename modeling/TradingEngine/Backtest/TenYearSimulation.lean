/-
The day loop of `run_10yr_master_backtest.run_simulation`.

The simulator knows every trade of the replays in advance, with its exit.  Each day
it closes the active trades that exit and spends its free cash on the signals of
the day.  Trades are recognised by their whole symbol.
-/

import Mathlib.Data.List.Sort
import TradingEngine.General.DisjointSelection
import TradingEngine.General.LotSizing
import TradingEngine.Master.Ledger

namespace TradingEngine.TenYearSimulation

open Master (StrategyName)

/-- A closed trade of a replay.  The simulator divides by its entry price. -/
structure SimTrade where
  strategy : StrategyName
  symbol : Symbol
  entryDate : Date
  exitDate : Date
  entryPrice : ℚ
  exitPrice : ℚ
  entryPrice_pos : 0 < entryPrice
deriving DecidableEq

structure ActiveTrade where
  trade : SimTrade
  actualQty : ℕ
deriving DecidableEq

namespace ActiveTrade

def locked (active : ActiveTrade) : ℚ :=
  active.actualQty * active.trade.entryPrice

def pnl (active : ActiveTrade) : ℚ :=
  (active.trade.exitPrice - active.trade.entryPrice) * active.actualQty

end ActiveTrade

structure SimState where
  freeCash : ℚ
  activePortfolio : List ActiveTrade
  dailyEquity : List (Date × ℚ)

def totalAccountCapital : ℚ := 200000

def minChunkSize : ℚ := 30000

/-- `strat_score`. -/
def stratScore : StrategyName → ℕ
  | .maPullback => 4
  | .supertrend => 3
  | .bbSqueeze => 2
  | .blackSwan => 1

/-! ### Exits -/

def exitTrades (currentDate : Date) (state : SimState) : SimState :=
  let exiting := state.activePortfolio.filter (fun active => active.trade.exitDate = currentDate)
  { state with
    freeCash := state.freeCash + (exiting.map (fun active => active.locked + active.pnl)).sum
    activePortfolio :=
      state.activePortfolio.filter (fun active => active.trade.exitDate ≠ currentDate) }

/-! ### Entries -/

section Entries

variable (activePortfolio : List ActiveTrade) (signals : List SimTrade)

def ranked : List SimTrade :=
  signals.insertionSort (fun left right => stratScore right.strategy ≤ stratScore left.strategy)

def heldSymbols : Finset Symbol :=
  (activePortfolio.map (fun active => active.trade.symbol)).toFinset

/-- The first signal of every symbol that is not active. -/
def deduped : List SimTrade :=
  DisjointSelection.coarseScan SimTrade.symbol (heldSymbols activePortfolio) (ranked signals)

def maxSlots (freeCash : ℚ) : ℕ :=
  ⌊freeCash / minChunkSize⌋₊

def selected (freeCash : ℚ) : List SimTrade :=
  (deduped activePortfolio signals).take (maxSlots freeCash)

def opened (freeCash : ℚ) : List ActiveTrade :=
  if freeCash < minChunkSize then []
  else
    let chosen := selected activePortfolio signals freeCash
    let chunkSize := freeCash / chosen.length
    chosen.map (fun trade =>
      { trade := trade
        actualQty := LotSizing.units chunkSize trade.entryPrice })

end Entries

def enterTrades (currentDate : Date) (validTrades : List SimTrade) (state : SimState) :
    SimState :=
  let signalsToday := validTrades.filter (fun trade => trade.entryDate = currentDate)
  let new := opened state.activePortfolio signalsToday state.freeCash
  { state with
    freeCash := state.freeCash - (new.map ActiveTrade.locked).sum
    activePortfolio := state.activePortfolio ++ new }

/-! ### Run -/

def simulateDay (validTrades : List SimTrade) (state : SimState) (currentDate : Date) :
    SimState :=
  let entered := enterTrades currentDate validTrades (exitTrades currentDate state)
  let lockedValue := (entered.activePortfolio.map ActiveTrade.locked).sum
  { entered with
    dailyEquity := entered.dailyEquity ++ [(currentDate, entered.freeCash + lockedValue)] }

def dates (validTrades : List SimTrade) : List Date :=
  ((validTrades.map SimTrade.entryDate ++ validTrades.map SimTrade.exitDate).dedup).insertionSort
    (fun earlier later => earlier ≤ later)

def runSimulation (validTrades : List SimTrade) : SimState :=
  (dates validTrades).foldl (simulateDay validTrades)
    { freeCash := totalAccountCapital
      activePortfolio := []
      dailyEquity := [] }

end TradingEngine.TenYearSimulation
