/-
The validation of candle tables.

Each check looks at one or a few columns and reports the rows it finds; the table is valid
when no issue is an error.  A comparison with a missing number is false, as in pandas.
-/

import TradingEngine.Data.CandleTable
import TradingEngine.Domain.Enums

namespace TradingEngine.Data

open Domain

/-! ### Reports -/

/-- A timestamp as pandas reads it, `none` for `NaT`. -/
abbrev Stamp : Type :=
  Option Datetime

inductive IssueSeverity where
  | error
  | warning
deriving DecidableEq

inductive IssueCode where
  | missingColumn
  | emptyDataframe
  | invalidTimestamp
  | duplicateTimestamp
  | nonPositivePrice
  | negativeVolume
  | invalidHigh
  | invalidLow
  | unsortedTimestamps
  | possibleMissingCandles
deriving DecidableEq

structure DataValidationIssue where
  severity : IssueSeverity
  code : IssueCode
  message : String
  symbol : String
  timestamp : Option Stamp
  rowIndex : Option ℕ
deriving DecidableEq

structure DataValidationReport where
  symbol : String
  exchange : Exchange
  interval : String
  rowCount : ℕ
  startTimestamp : Option Stamp
  endTimestamp : Option Stamp
  isValid : Bool
  issues : List DataValidationIssue
deriving DecidableEq

/-- `_REQUIRED_COLUMNS`. -/
def requiredColumns : List String :=
  ["timestamp", "open", "high", "low", "close", "volume"]

/-- `_INTERVAL_MINUTES`. -/
def intervalMinutes : List (String × ℤ) :=
  [("minute", 1), ("1minute", 1), ("3minute", 3), ("5minute", 5), ("15minute", 15),
    ("30minute", 30), ("60minute", 60)]

/-- `_GAP_THRESHOLD_MULTIPLIER`. -/
def gapThresholdMultiplier : ℤ :=
  10

/-! ### Series -/

/-- `x < y` of two numbers that may be missing. -/
def less {V : Type} [LinearOrder V] (x y : Option V) : Bool :=
  x.any fun left => y.any fun right => left < right

/-- `ts[ts.duplicated()]`: the values that occurred before. -/
def duplicated {α : Type} [DecidableEq α] (seen : List α) : List α → List α
  | [] => []
  | value :: rest =>
      if value ∈ seen then value :: duplicated seen rest
      else duplicated (value :: seen) rest

/-- `ts.is_monotonic_increasing`, which is false when a timestamp is missing. -/
def isMonotonicIncreasing (times : List Stamp) : Bool :=
  times.all Option.isSome ∧ times.reduceOption.Pairwise (fun earlier later => earlier ≤ later)

/-- The neighbours of the sorted timestamps that are further apart than the threshold. -/
def largeGaps (threshold : ℤ) (times : List Stamp) : List (Datetime × Datetime) :=
  let sortedTimes := times.reduceOption.insertionSort (fun earlier later => earlier ≤ later)
  (sortedTimes.zip sortedTimes.tail).filter (fun gap => threshold < gap.2 - gap.1)

/-! ### Checks -/

namespace Pandas

variable {C V : Type} [LinearOrder V] [Zero V] (pandas : Pandas C V)

section Checks

variable (table : CandleTable pandas.missing) (symbol : String)

/-- The rows for which a check fails, with their positions. -/
def flagRows (bad : (String → C) → Bool)
    (issue : ℕ → (String → C) → DataValidationIssue) : List DataValidationIssue :=
  table.rows.zipIdx.filterMap fun entry =>
    if bad entry.1 then some (issue entry.2 entry.1) else none

def errorAt (code : IssueCode) (message : String) (timestamp : Option Stamp)
    (rowIndex : Option ℕ) : DataValidationIssue :=
  { severity := .error
    code := code
    message := message
    symbol := symbol
    timestamp := timestamp
    rowIndex := rowIndex }

def missingColumnIssues (missingCols : List String) : List DataValidationIssue :=
  missingCols.map fun col =>
    errorAt symbol .missingColumn ("Required column '" ++ col ++ "' is missing.") none none

/-- `ts`: the timestamps, or no value and an issue where they cannot be parsed. -/
def readTimestamps : List Stamp × List DataValidationIssue :=
  match pandas.toDatetime (table.column "timestamp") with
  | .ok read => ((table.column "timestamp").map read, [])
  | .error text =>
      ([], [errorAt symbol .invalidTimestamp
        ("timestamp column cannot be parsed as datetime: " ++ text) none none])

def duplicateIssues (times : List Stamp) : List DataValidationIssue :=
  (KeyedMerge.keepFirst id (duplicated [] times)).map fun time =>
    errorAt symbol .duplicateTimestamp
      ("Duplicate timestamp found: " ++ pandas.showDatetime time) (some time) none

/-- One column of the prices, at 0 or below. -/
def nonPositive (col : String) (row : String → C) : Bool :=
  (pandas.toNumeric (row col)).any fun price => price ≤ 0

def priceIssues (col : String) : List DataValidationIssue :=
  pandas.flagRows table (pandas.nonPositive col) fun index row =>
    errorAt symbol .nonPositivePrice
      ("Column '" ++ col ++ "' has non-positive value " ++ pandas.reprCell (row col) ++
        " at row " ++ toString index ++ ".") none (some index)

def negativeVolume (row : String → C) : Bool :=
  (pandas.toNumeric (row "volume")).any fun volume => volume < 0

def volumeIssues : List DataValidationIssue :=
  pandas.flagRows table pandas.negativeVolume fun index row =>
    errorAt symbol .negativeVolume
      ("volume is negative (" ++ pandas.reprCell (row "volume") ++ ") at row " ++
        toString index ++ ".") none (some index)

def badHigh (row : String → C) : Bool :=
  let num := fun col => pandas.toNumeric (row col)
  less (num "high") (num "open") || less (num "high") (num "close") ||
    less (num "high") (num "low")

def highIssues : List DataValidationIssue :=
  pandas.flagRows table pandas.badHigh fun index row =>
    errorAt symbol .invalidHigh
      ("high (" ++ pandas.showNumber (pandas.toNumeric (row "high")) ++
        ") is less than open/close/low at row " ++ toString index ++ ".") none (some index)

def badLow (row : String → C) : Bool :=
  let num := fun col => pandas.toNumeric (row col)
  less (num "open") (num "low") || less (num "close") (num "low") ||
    less (num "high") (num "low")

def lowIssues : List DataValidationIssue :=
  pandas.flagRows table pandas.badLow fun index row =>
    errorAt symbol .invalidLow
      ("low (" ++ pandas.showNumber (pandas.toNumeric (row "low")) ++
        ") is greater than open/close/high at row " ++ toString index ++ ".") none (some index)

def sortIssues (times : List Stamp) : List DataValidationIssue :=
  if times ≠ [] ∧ isMonotonicIncreasing times = false then
    [errorAt symbol .unsortedTimestamps "Timestamps are not sorted in ascending order." none
      none]
  else []

/-- Warnings only. -/
def gapIssues (interval : String) (times : List Stamp) : List DataValidationIssue :=
  match intervalMinutes.lookup interval with
  | none => []
  | some minutes =>
      let expected := minutes * 60000000
      if 1 < times.length then
        (largeGaps (expected * gapThresholdMultiplier) times).map fun gap =>
          { severity := .warning
            code := .possibleMissingCandles
            message := "Large gap detected: " ++ pandas.showDatetime (some gap.1) ++ " → " ++
              pandas.showDatetime (some gap.2) ++ " (" ++
              pandas.showTimedelta (gap.2 - gap.1) ++ "). Expected ~" ++
              pandas.showTimedelta expected ++ "."
            symbol := symbol
            timestamp := some (some gap.2)
            rowIndex := none }
      else []

end Checks

/-! ### `validate_ohlcv_dataframe` -/

/-- The findings in a table with all columns and some rows. -/
def findings (table : CandleTable pandas.missing) (symbol interval : String) :
    List DataValidationIssue :=
  let times := (pandas.readTimestamps table symbol).1
  (pandas.readTimestamps table symbol).2 ++ pandas.duplicateIssues symbol times ++
    ["open", "high", "low", "close"].flatMap (pandas.priceIssues table symbol) ++
    pandas.volumeIssues table symbol ++ pandas.highIssues table symbol ++
    pandas.lowIssues table symbol ++ sortIssues symbol times ++
    pandas.gapIssues symbol interval times

def validateOhlcvDataframe (table : CandleTable pandas.missing) (symbol : String)
    (exchange : Exchange) (interval : String) : DataValidationReport :=
  let missingCols := requiredColumns.filter (fun col => col ∉ table.columns)
  if missingCols ≠ [] then
    { symbol := symbol
      exchange := exchange
      interval := interval
      rowCount := table.rows.length
      startTimestamp := none
      endTimestamp := none
      isValid := false
      issues := missingColumnIssues symbol missingCols }
  else if table.rows.isEmpty then
    { symbol := symbol
      exchange := exchange
      interval := interval
      rowCount := 0
      startTimestamp := none
      endTimestamp := none
      isValid := false
      issues := [errorAt symbol .emptyDataframe "DataFrame contains no rows." none none] }
  else
    let times := (pandas.readTimestamps table symbol).1
    let issues := pandas.findings table symbol interval
    { symbol := symbol
      exchange := exchange
      interval := interval
      rowCount := table.rows.length
      startTimestamp := if times.isEmpty then none else some times.reduceOption.min?
      endTimestamp := if times.isEmpty then none else some times.reduceOption.max?
      isValid := ¬ issues.any (fun issue => issue.severity = .error)
      issues := issues }

end Pandas

end TradingEngine.Data
