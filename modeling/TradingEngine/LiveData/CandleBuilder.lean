/-
`CandleBuilder`: live ticks become bars.

Each symbol has at most one open candle, that of the bucket of its last tick.  A
tick of another bucket closes it.  Epoch seconds are exact here.
-/

import TradingEngine.Domain.Models
import TradingEngine.General.OrderedDict

namespace TradingEngine.LiveData

/-- `LiveTick` with what `__post_init__` checks. -/
structure LiveTick where
  instrumentToken : ℕ
  symbol : Option String
  timestamp : Datetime
  lastPrice : ℚ
  volume : Option ℕ
  instrumentToken_pos : 0 < instrumentToken
  lastPrice_pos : 0 < lastPrice

/-- The key of a tick: its symbol, or its token if that is missing or empty. -/
def LiveTick.key (tick : LiveTick) : String :=
  match tick.symbol with
  | none => toString tick.instrumentToken
  | some symbol => if symbol = "" then toString tick.instrumentToken else symbol

/-- `_OpenCandle`. -/
structure OpenCandle where
  symbol : String
  bucketStart : Datetime
  openPrice : ℚ
  high : ℚ
  low : ℚ
  close : ℚ
  volume : ℕ
  low_le_high : low ≤ high

namespace OpenCandle

def update (candle : OpenCandle) (tick : LiveTick) : OpenCandle :=
  { candle with
    high := if candle.high < tick.lastPrice then tick.lastPrice else candle.high
    low := if tick.lastPrice < candle.low then tick.lastPrice else candle.low
    close := tick.lastPrice
    volume := candle.volume + tick.volume.getD 0
    low_le_high := by
      have bounds := candle.low_le_high
      split_ifs with lower higher higher
      · exact le_refl _
      · exact le_trans (le_of_lt lower) bounds
      · exact not_lt.mp lower
      · exact bounds }

def toBar (candle : OpenCandle) : Domain.Bar :=
  { symbol := candle.symbol
    exchange := "NSE"
    timestamp := candle.bucketStart
    openPrice := candle.openPrice
    high := candle.high
    low := candle.low
    close := candle.close
    volume := candle.volume
    interval := "live"
    low_le_high := candle.low_le_high }

end OpenCandle

/-- `_bucket_start`. -/
def bucketStart (ts : Datetime) (intervalSeconds : ℕ) : Datetime :=
  ts / (1000000 * intervalSeconds) * (1000000 * intervalSeconds)

/-- `_new_candle`. -/
def newCandle (symbol : String) (bucket : Datetime) (tick : LiveTick) : OpenCandle :=
  { symbol := symbol
    bucketStart := bucket
    openPrice := tick.lastPrice
    high := tick.lastPrice
    low := tick.lastPrice
    close := tick.lastPrice
    volume := tick.volume.getD 0
    low_le_high := le_refl _ }

/-- The constructor rejects an interval that is not positive. -/
structure CandleBuilder where
  intervalSeconds : ℕ
  openCandles : OrderedDict String OpenCandle
  interval_pos : 0 < intervalSeconds

namespace CandleBuilder

def new (intervalSeconds : ℕ) (interval_pos : 0 < intervalSeconds) : CandleBuilder :=
  { intervalSeconds := intervalSeconds
    openCandles := OrderedDict.empty
    interval_pos := interval_pos }

def bucketOf (builder : CandleBuilder) (tick : LiveTick) : Datetime :=
  bucketStart tick.timestamp builder.intervalSeconds

def setCandle (builder : CandleBuilder) (symbol : String) (candle : OpenCandle) :
    CandleBuilder :=
  { builder with openCandles := builder.openCandles.insert symbol candle }

def addTick (builder : CandleBuilder) (tick : LiveTick) : Option Domain.Bar × CandleBuilder :=
  let symbol := tick.key
  let bucket := builder.bucketOf tick
  match builder.openCandles.get? symbol with
  | none => (none, builder.setCandle symbol (newCandle symbol bucket tick))
  | some existing =>
      if bucket = existing.bucketStart then
        (none, builder.setCandle symbol (existing.update tick))
      else (some existing.toBar, builder.setCandle symbol (newCandle symbol bucket tick))

def flush (builder : CandleBuilder) : List Domain.Bar × CandleBuilder :=
  (builder.openCandles.entries.map (fun entry => entry.2.toBar),
    { builder with openCandles := OrderedDict.empty })

def addTicks (builder : CandleBuilder) : List LiveTick → List Domain.Bar × CandleBuilder
  | [] => ([], builder)
  | tick :: rest =>
      let added := builder.addTick tick
      let later := added.2.addTicks rest
      (added.1.toList ++ later.1, later.2)

def barsFor (builder : CandleBuilder) (ticks : List LiveTick) (symbol : String) :
    List Domain.Bar :=
  let added := builder.addTicks ticks
  (added.1 ++ added.2.flush.1).filter (fun bar => bar.symbol = symbol)

end CandleBuilder

end TradingEngine.LiveData
