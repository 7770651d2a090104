/-
Input and output of the reference strategies.

A strategy receives one bar of one symbol at a time and answers with order
intents.  Only what the strategies under study read is kept of a bar, and only
what they set is kept of an intent.
-/

import TradingEngine.MarketData

namespace TradingEngine.Signals

structure Bar (K : Type) where
  symbol : Ticker
  exchange : String
  timestamp : Timestamp
  close : K
deriving DecidableEq

inductive Side where
  | buy
  | sell
deriving DecidableEq

structure OrderIntent where
  strategyId : String
  symbol : Ticker
  exchange : String
  side : Side
  quantity : ℕ
  orderType : String
  product : String
  reason : String
deriving DecidableEq

/-- The intent that the `_create_intent` of both strategies builds. -/
def marketIntent (strategyId : String) (symbol : Ticker) (side : Side) (quantity : ℕ)
    (exchange reason : String) : OrderIntent :=
  { strategyId := strategyId
    symbol := symbol
    exchange := exchange
    side := side
    quantity := quantity
    orderType := "MARKET"
    product := "CNC"
    reason := reason }

end TradingEngine.Signals
