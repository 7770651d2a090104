/-
The canonical enumerations of the engine.

Each member carries its string value, the form in which it appears in payloads
and error texts.  An enumeration called on a string gives the member with that
value or fails.
-/

import TradingEngine.Strategies.Signals

namespace TradingEngine.Domain

open Signals (Side)

inductive Exchange where
  | nse
  | bse
deriving DecidableEq

def Exchange.text : Exchange → String
  | .nse => "NSE"
  | .bse => "BSE"

/-- `Exchange(value)`. -/
def Exchange.ofText (value : String) : Option Exchange :=
  if value = "NSE" then some .nse
  else if value = "BSE" then some .bse
  else none

def Side.text : Side → String
  | .buy => "BUY"
  | .sell => "SELL"

/-- `SL_M` has the value `SL-M` of the broker. -/
inductive OrderType where
  | market
  | limit
  | sl
  | slM
deriving DecidableEq

def OrderType.text : OrderType → String
  | .market => "MARKET"
  | .limit => "LIMIT"
  | .sl => "SL"
  | .slM => "SL-M"

inductive ProductType where
  | mis
  | cnc
  | nrml
deriving DecidableEq

def ProductType.text : ProductType → String
  | .mis => "MIS"
  | .cnc => "CNC"
  | .nrml => "NRML"

inductive TimeInForce where
  | day
  | ioc
deriving DecidableEq

inductive OrderStatus where
  | created
  | riskApproved
  | riskRejected
  | submitted
  | opened
  | partiallyFilled
  | filled
  | cancelRequested
  | cancelled
  | rejected
  | failed
  | unknown
  | reconciled
deriving DecidableEq

def OrderStatus.text : OrderStatus → String
  | .created => "CREATED"
  | .riskApproved => "RISK_APPROVED"
  | .riskRejected => "RISK_REJECTED"
  | .submitted => "SUBMITTED"
  | .opened => "OPEN"
  | .partiallyFilled => "PARTIALLY_FILLED"
  | .filled => "FILLED"
  | .cancelRequested => "CANCEL_REQUESTED"
  | .cancelled => "CANCELLED"
  | .rejected => "REJECTED"
  | .failed => "FAILED"
  | .unknown => "UNKNOWN"
  | .reconciled => "RECONCILED"

/-- The `repr` of a member, whose name is its value. -/
def OrderStatus.repr (status : OrderStatus) : String :=
  "<OrderStatus." ++ status.text ++ ": '" ++ status.text ++ "'>"

inductive RiskReasonCode where
  | approved
  | liveTradingDisabled
  | dailyLossLimitBreached
  | orderValueLimitBreached
  | positionLimitBreached
  | symbolNotAllowed
  | productNotAllowed
  | orderTypeNotAllowed
  | marketDataStale
  | outsideTradingWindow
  | rateLimitBreached
  | invalidOrder
  | killSwitchActive
  | unknown
deriving DecidableEq

def RiskReasonCode.text : RiskReasonCode → String
  | .approved => "APPROVED"
  | .liveTradingDisabled => "LIVE_TRADING_DISABLED"
  | .dailyLossLimitBreached => "DAILY_LOSS_LIMIT_BREACHED"
  | .orderValueLimitBreached => "ORDER_VALUE_LIMIT_BREACHED"
  | .positionLimitBreached => "POSITION_LIMIT_BREACHED"
  | .symbolNotAllowed => "SYMBOL_NOT_ALLOWED"
  | .productNotAllowed => "PRODUCT_NOT_ALLOWED"
  | .orderTypeNotAllowed => "ORDER_TYPE_NOT_ALLOWED"
  | .marketDataStale => "MARKET_DATA_STALE"
  | .outsideTradingWindow => "OUTSIDE_TRADING_WINDOW"
  | .rateLimitBreached => "RATE_LIMIT_BREACHED"
  | .invalidOrder => "INVALID_ORDER"
  | .killSwitchActive => "KILL_SWITCH_ACTIVE"
  | .unknown => "UNKNOWN"

end TradingEngine.Domain
