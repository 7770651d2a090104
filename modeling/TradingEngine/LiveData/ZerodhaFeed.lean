/-
`ZerodhaLiveMarketFeed._on_ticks`: raw ticks become `LiveTick` objects.

A raw tick is read field by field, each parse in its own `try` block with its own list
of exceptions.  What no block catches leaves the conversion, and with it the loop over
the batch.
-/

import Mathlib.Data.Rat.Floor
import TradingEngine.General.TryExcept
import TradingEngine.Python

namespace TradingEngine.ZerodhaFeed

open TryExcept

/-- The exceptions of the conversion. -/
inductive FeedRaised where
  | keyError
  | typeError
  | valueError
  | overflowError
  | invalidOperation
deriving DecidableEq

/-! ### Values -/

inductive DecimalValue where
  | finite (value : ℚ)
  | infinite (negative : Bool)
  | nan
deriving DecidableEq

/-- `value <= Decimal("0")`, which raises for a NaN. -/
def DecimalValue.leZero : DecimalValue → Except FeedRaised Bool
  | .finite value => .ok (value ≤ 0)
  | .infinite negative => .ok negative
  | .nan => .error .invalidOperation

/-- What a key of a raw tick holds.  Any other object comes with the text that `str`
gives. -/
inductive FeedValue where
  | absent
  | null
  | boolean (value : Bool)
  | number (value : ℚ)
  | infinite (negative : Bool)
  | nan
  | text (value : String)
  | moment (value : Datetime)
  | other (shown : String) (truthy : Bool)
deriving DecidableEq

namespace FeedValue

/-- `raw[key]`. -/
def subscript : FeedValue → Except FeedRaised FeedValue
  | .absent => .error .keyError
  | value => .ok value

/-- `raw.get(key)`. -/
def get : FeedValue → FeedValue
  | .absent => .null
  | value => value

def truthy : FeedValue → Bool
  | .absent => false
  | .null => false
  | .boolean value => value
  | .number value => value ≠ 0
  | .infinite _ => true
  | .nan => true
  | .text value => value ≠ ""
  | .moment _ => true
  | .other _ truthy => truthy

/-- `left or right`. -/
def or (left right : FeedValue) : FeedValue :=
  if left.truthy then left else right

/-- `int(value)`. -/
def toInt (py : Python) : FeedValue → Except FeedRaised ℤ
  | .boolean value => .ok (if value then 1 else 0)
  | .number value => .ok (if value < 0 then ⌈value⌉ else ⌊value⌋)
  | .infinite _ => .error .overflowError
  | .nan => .error .valueError
  | .text value => (py.int value).elim (.error .valueError) .ok
  | _ => .error .typeError

/-- `Decimal(str(value))`; `decimal` reads the text of a number, an infinity or a NaN. -/
def toDecimal (decimal : String → Option DecimalValue) : FeedValue → Except FeedRaised DecimalValue
  | .number value => .ok (.finite value)
  | .infinite negative => .ok (.infinite negative)
  | .nan => .ok .nan
  | .text value => (decimal value).elim (.error .invalidOperation) .ok
  | .other shown _ => (decimal shown).elim (.error .invalidOperation) .ok
  | _ => .error .invalidOperation

end FeedValue

/-- The keys of a raw tick that the conversion reads. -/
structure RawTick where
  instrumentToken : FeedValue
  lastPrice : FeedValue
  volumeTraded : FeedValue
  volume : FeedValue
  averageTradedPrice : FeedValue
  averagePrice : FeedValue
  exchangeTimestamp : FeedValue
  lastTradeTime : FeedValue
deriving DecidableEq

/-- `LiveTick` as the feed builds it, with what `__post_init__` checks. -/
structure FeedTick where
  instrumentToken : ℤ
  symbol : Option String
  timestamp : Datetime
  lastPrice : DecimalValue
  volume : Option ℤ
  averagePrice : Option DecimalValue
  raw : RawTick
  instrumentToken_pos : 0 < instrumentToken
  lastPrice_pos : lastPrice.leZero = .ok false
  volume_nonneg : ∀ value, volume = some value → 0 ≤ value

/-! ### The conversion -/

namespace RawTick

/-- `_parse_timestamp`; `now` is what the clock gives. -/
def parseTimestamp (raw : RawTick) (now : Datetime) : Datetime :=
  match raw.exchangeTimestamp.get with
  | .moment time => time
  | _ =>
      match raw.lastTradeTime.get with
      | .moment time => time
      | _ => now

/-- The body of the first `try` block. -/
def tokenAndPrice (py : Python) (decimal : String → Option DecimalValue) (raw : RawTick) :
    Except FeedRaised (ℤ × DecimalValue) := do
  let token ← (← raw.instrumentToken.subscript).toInt py
  let lastPrice ← (← raw.lastPrice.subscript).toDecimal decimal
  return (token, lastPrice)

def volumeField (raw : RawTick) : FeedValue :=
  raw.volumeTraded.get.or raw.volume.get

def averageField (raw : RawTick) : FeedValue :=
  raw.averageTradedPrice.get.or raw.averagePrice.get

/-- The body of the `try` block of the volume. -/
def parseVolume (py : Python) (raw : RawTick) : Except FeedRaised (Option ℤ) :=
  if raw.volumeField = .null then .ok none else (raw.volumeField.toInt py).map some

/-- The body of the `try` block of the average price. -/
def parseAverage (decimal : String → Option DecimalValue) (raw : RawTick) :
    Except FeedRaised (Option DecimalValue) :=
  if raw.averageField = .null then .ok none
  else (raw.averageField.toDecimal decimal).map some

end RawTick

/-- `LiveTick(...)`: the checks of `__post_init__` in their order. -/
def liveTick (token : ℤ) (symbol : Option String) (timestamp : Datetime)
    (lastPrice : DecimalValue) (volume : Option ℤ) (averagePrice : Option DecimalValue)
    (raw : RawTick) : Except FeedRaised FeedTick :=
  if positive : 0 < token then
    match price : lastPrice.leZero with
    | .error exception => .error exception
    | .ok true => .error .valueError
    | .ok false =>
        if counted : ∀ value, volume = some value → 0 ≤ value then
          .ok
            { instrumentToken := token
              symbol := symbol
              timestamp := timestamp
              lastPrice := lastPrice
              volume := volume
              averagePrice := averagePrice
              raw := raw
              instrumentToken_pos := positive
              lastPrice_pos := price
              volume_nonneg := counted }
        else .error .valueError
  else .error .valueError

/-- `_raw_tick_to_live_tick`. -/
def rawTickToLiveTick (py : Python) (decimal : String → Option DecimalValue)
    (tokenSymbolMap : ℤ → Option String) (now : Datetime) (raw : RawTick) :
    Except FeedRaised (Option FeedTick) := do
  let required ← guarded [.keyError, .typeError, .valueError] none
    ((raw.tokenAndPrice py decimal).map some)
  match required with
  | none => return none
  | some (token, lastPrice) =>
      let volume ← guarded [.typeError, .valueError] none (raw.parseVolume py)
      let averagePrice ← guarded [.typeError, .valueError] none (raw.parseAverage decimal)
      guarded [.valueError] none
        ((liveTick token (tokenSymbolMap token) (raw.parseTimestamp now) lastPrice volume
          averagePrice raw).map some)

/-! ### The batch -/

/-- The feed with the registered callback; the callback tells whether it raises. -/
structure Feed where
  tokenSymbolMap : ℤ → Option String
  tickCallback : Option (FeedTick → Bool)

/-- The calls of the callback, the tokens logged for those that raised, and what leaves
`_on_ticks`. -/
structure BatchResult where
  calls : List FeedTick
  logged : List FeedValue
  raised : Option FeedRaised

def BatchResult.call (callback : FeedTick → Bool) (tick : FeedTick) (later : BatchResult) :
    BatchResult :=
  { calls := tick :: later.calls
    logged :=
      if callback tick then tick.raw.instrumentToken.get :: later.logged else later.logged
    raised := later.raised }

section OnTicks

variable (py : Python) (decimal : String → Option DecimalValue)

/-- The loop of `_on_ticks`; each raw tick comes with the clock at its conversion. -/
def callBatch (tokenSymbolMap : ℤ → Option String) (callback : FeedTick → Bool) :
    List (RawTick × Datetime) → BatchResult
  | [] => { calls := [], logged := [], raised := none }
  | (raw, now) :: rest =>
      match rawTickToLiveTick py decimal tokenSymbolMap now raw with
      | .error exception => { calls := [], logged := [], raised := some exception }
      | .ok none => callBatch tokenSymbolMap callback rest
      | .ok (some tick) => (callBatch tokenSymbolMap callback rest).call callback tick

/-- `_on_ticks`. -/
def Feed.onTicks (feed : Feed) (ticks : List (RawTick × Datetime)) : BatchResult :=
  match feed.tickCallback with
  | none => { calls := [], logged := [], raised := none }
  | some callback => callBatch py decimal feed.tokenSymbolMap callback ticks

end OnTicks

end TradingEngine.ZerodhaFeed
