/-
What the long-only swing strategies share.

A position is bought with a fixed capital and carries the time, the quantity and the price of
its entry.  A call may raise; it is answered with the exception then, and with the intents
otherwise.
-/

import TradingEngine.General.EventMachine
import TradingEngine.General.LotSizing
import TradingEngine.Strategies.Intraday

namespace TradingEngine.Swing

open Domain
open Intraday (Intent)
open Signals (Side)

/-- The entry fields of `_SymbolState` while the position is long. -/
structure Holding where
  entryTime : Datetime
  entryQty : ℤ
  entryPrice : ℚ
  entryQty_pos : 0 < entryQty

/-- `_create_intent`. -/
def createIntent (strategyId : String) (bar : Domain.Bar) (side : Side) (quantity : ℤ)
    (quantity_pos : 0 < quantity) (reason : String) : Intent :=
  { PairsTrading.legIntent strategyId bar.symbol bar.exchange side quantity quantity_pos with
    product := .cnc
    reason := reason }

/-- `max(1, int(capital_per_trade / price))`. -/
def quantityFor (capitalPerTrade : ℤ) (price : ℚ) : ℤ :=
  LotSizing.units (capitalPerTrade : ℚ) price

theorem quantityFor_pos (capitalPerTrade : ℤ) (price : ℚ) :
    0 < quantityFor capitalPerTrade price :=
  Int.natCast_pos.mpr (lt_max_of_lt_left Nat.one_pos)

/-- The position that is bought at the close of a bar. -/
def holdingAt (capitalPerTrade : ℤ) (bar : Domain.Bar) : Holding :=
  { entryTime := bar.timestamp
    entryQty := quantityFor capitalPerTrade bar.close
    entryPrice := bar.close
    entryQty_pos := quantityFor_pos capitalPerTrade bar.close }

/-- `(bar.timestamp - entry_time).days`. -/
def daysHeld (bar : Domain.Bar) (held : Holding) : ℤ :=
  (bar.timestamp - held.entryTime) / 86400000000

/-- `entry_price * (1 - stop_loss_pct / 100)`. -/
def stopPrice (stopLossPct : ℚ) (held : Holding) : ℚ :=
  held.entryPrice * (1 - stopLossPct / 100)

/-- A call that sizes an entry at a price of zero raises. -/
def divisionByZero : EngineError :=
  .zeroDivision "float division by zero"

/-- What a call is answered with. -/
abbrev Answer : Type :=
  Except EngineError (List Intent)

/-- A call that raises emits nothing. -/
def Answer.intents : Answer → List Intent
  | .ok intents => intents
  | .error _ => []

end TradingEngine.Swing
