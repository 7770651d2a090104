/-
Tables of candles as pandas holds them.

A table has named columns and rows of cells.  Raw candles come from the broker as dicts; the
downloader renames the date, turns the prices into numbers where it can and the volume into
whole numbers.  What a cell reads as is left to pandas.
-/

import TradingEngine.General.KeyedMerge
import TradingEngine.General.OrderedDict
import TradingEngine.Python

namespace TradingEngine.Data

/-- What pandas reads in cells of a type `C`, with numbers in `V`; `none` is NaN or NaT. -/
structure Pandas (C V : Type) where
  /-- The cell of a row that has no value in a column. -/
  missing : C
  /-- One cell under `pd.to_numeric(..., errors="coerce")`, and the cell a number is kept in. -/
  toNumeric : C → Option V
  ofNumeric : Option V → C
  /-- One number under `astype("int64")`, `none` where it raises. -/
  toInt64 : V → Option V
  /-- `pd.to_datetime` of a column: its reading of a cell, or the text of the exception. -/
  toDatetime : List C → Except String (C → Option Datetime)
  /-- Texts of messages. -/
  reprCell : C → String
  showNumber : Option V → String
  showDatetime : Option Datetime → String
  showTimedelta : ℤ → String
  toNumeric_ofNumeric : ∀ number, toNumeric (ofNumeric number) = number

/-- A `DataFrame` with the default index; outside its columns there is nothing. -/
@[ext]
structure CandleTable {C : Type} (missing : C) where
  columns : List String
  rows : List (String → C)
  distinct : columns.Nodup
  outside : ∀ row ∈ rows, ∀ column, column ∉ columns → row column = missing

namespace CandleTable

variable {C : Type} {missing : C}

/-- `df[column]`. -/
def column (table : CandleTable missing) (name : String) : List C :=
  table.rows.map (fun row => row name)

/-- `pd.DataFrame(columns=[...])` of the candle columns. -/
def noCandles : CandleTable missing :=
  { columns := ["timestamp", "open", "high", "low", "close", "volume"]
    rows := []
    distinct := by decide
    outside := nofun }

/-- `pd.DataFrame(raw)` of a list of dicts. -/
def ofDicts (raw : List (OrderedDict String C)) : CandleTable missing :=
  { columns := KeyedMerge.keepFirst id (raw.flatMap OrderedDict.keys)
    rows := raw.map (fun dict name => (dict.get? name).getD missing)
    distinct := KeyedMerge.keepFirst_distinct _
    outside := by
      intro row member name absent
      obtain ⟨dict, listed, rfl⟩ := List.mem_map.mp member
      have unkeyed : name ∉ dict.keys := by
        intro keyed
        have all : name ∈ raw.flatMap OrderedDict.keys :=
          List.mem_flatMap.mpr ⟨dict, listed, keyed⟩
        exact absent (KeyedMerge.mem_keepFirst_id.mpr all)
      dsimp only
      rw [OrderedDict.get?_eq_none_iff.mpr unkeyed, Option.getD_none] }

/-- `df.rename(columns=...)` of one column to a name that no column has. -/
def rename (table : CandleTable missing) (old new : String) (fresh : new ∉ table.columns) :
    CandleTable missing :=
  { columns := table.columns.map (fun name => if name = old then new else name)
    rows := table.rows.map (fun row name =>
      if name = new then row old else if name = old then missing else row name)
    distinct := by
      refine table.distinct.map_on ?_
      intro left leftListed right rightListed same
      split_ifs at same with leftOld rightOld rightOld
      · rw [leftOld, rightOld]
      · exact absurd (same ▸ rightListed) fresh
      · exact absurd (same ▸ leftListed) fresh
      · exact same
    outside := by
      intro row member name absent
      obtain ⟨former, present, rfl⟩ := List.mem_map.mp member
      dsimp only
      split_ifs with isNew isOld
      · subst isNew
        refine table.outside former present old fun listed => absent ?_
        exact List.mem_map.mpr ⟨old, listed, if_pos rfl⟩
      · rfl
      · refine table.outside former present name fun listed => absent ?_
        exact List.mem_map.mpr ⟨name, listed, if_neg isOld⟩ }

/-- `df[name] = ...`, cell by cell, when the table has the column. -/
def mapColumn (table : CandleTable missing) (name : String) (change : C → C) :
    CandleTable missing :=
  if has : name ∈ table.columns then
    { columns := table.columns
      rows := table.rows.map (fun row other =>
        if other = name then change (row other) else row other)
      distinct := table.distinct
      outside := by
        intro row member other absent
        obtain ⟨former, present, rfl⟩ := List.mem_map.mp member
        have differs : other ≠ name := fun same => absent (same ▸ has)
        dsimp only
        rw [if_neg differs]
        exact table.outside former present other absent }
  else table

/-- `pd.concat(tables, ignore_index=True)`. -/
def concat (tables : List (CandleTable missing)) : CandleTable missing :=
  { columns := KeyedMerge.keepFirst id (tables.flatMap columns)
    rows := tables.flatMap rows
    distinct := KeyedMerge.keepFirst_distinct _
    outside := by
      intro row member name absent
      obtain ⟨table, listed, present⟩ := List.mem_flatMap.mp member
      refine table.outside row present name fun has => absent ?_
      exact KeyedMerge.mem_keepFirst_id.mpr (List.mem_flatMap.mpr ⟨table, listed, has⟩) }

/-- Some of the rows, in an order of their own. -/
def withRows (table : CandleTable missing) (chosen : List (String → C))
    (among : ∀ row ∈ chosen, row ∈ table.rows) : CandleTable missing :=
  { columns := table.columns
    rows := chosen
    distinct := table.distinct
    outside := fun row member => table.outside row (among row member) }

@[simp]
theorem columns_mapColumn (table : CandleTable missing) (name : String) (change : C → C) :
    (table.mapColumn name change).columns = table.columns := by
  unfold mapColumn
  split_ifs with has <;> rfl

theorem rows_mapColumn {table : CandleTable missing} {name : String} (change : C → C)
    (has : name ∈ table.columns) :
    (table.mapColumn name change).rows = table.rows.map (fun row other =>
      if other = name then change (row other) else row other) := by
  rw [mapColumn, dif_pos has]

end CandleTable

/-! ### `HistoricalDataDownloader._to_dataframe` -/

namespace Pandas

variable {C V : Type} [Zero V] (pandas : Pandas C V)

/-- `_NUMERIC_COLS`. -/
def numericCols : List String :=
  ["open", "high", "low", "close"]

/-- `pd.to_numeric(df[column], errors="coerce")` of a cell, put back into it. -/
def coerced (cell : C) : C :=
  pandas.ofNumeric (pandas.toNumeric cell)

/-- A volume: missing values become 0, then `astype("int64")`. -/
def volumeOf (cell : C) : Option V :=
  pandas.toInt64 ((pandas.toNumeric cell).getD 0)

/-- "date" becomes "timestamp", unless there is one. -/
def renameDate (table : CandleTable pandas.missing) : CandleTable pandas.missing :=
  if fresh : "date" ∈ table.columns ∧ "timestamp" ∉ table.columns then
    table.rename "date" "timestamp" fresh.2
  else table

def coercePrices (table : CandleTable pandas.missing) : CandleTable pandas.missing :=
  numericCols.foldl (fun coercing name => coercing.mapColumn name pandas.coerced) table

def integerVolume (table : CandleTable pandas.missing) :
    Except String (CandleTable pandas.missing) :=
  if "volume" ∈ table.columns ∧
      (table.column "volume").any (fun cell => (pandas.volumeOf cell).isNone) then
    .error "Cannot convert non-finite values (NA or inf) to integer"
  else .ok (table.mapColumn "volume" (fun cell => pandas.ofNumeric (pandas.volumeOf cell)))

def toDataframe (raw : List (OrderedDict String C)) :
    Except String (CandleTable pandas.missing) :=
  if raw = [] then .ok CandleTable.noCandles
  else pandas.integerVolume (pandas.coercePrices (pandas.renameDate (CandleTable.ofDicts raw)))

end Pandas

/-! ### Plain cells -/

/-- Whole numbers, texts that are no numbers, and times. -/
inductive PlainCell where
  | number (value : Option ℤ)
  | text (content : String)
  | time (instant : Datetime)
deriving DecidableEq

def plainPandas : Pandas PlainCell ℤ :=
  { missing := .number none
    toNumeric := fun
      | .number value => value
      | _ => none
    ofNumeric := .number
    toInt64 := some
    toDatetime := fun _ => .ok fun
      | .time instant => some instant
      | _ => none
    reprCell := fun _ => "cell"
    showNumber := fun _ => "number"
    showDatetime := fun _ => "time"
    showTimedelta := fun _ => "span"
    toNumeric_ofNumeric := fun _ => rfl }

end TradingEngine.Data
