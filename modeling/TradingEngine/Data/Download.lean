/-
The historical download.

For every symbol the chunks of the date range are fetched and put together, the rows of an
existing file come before them, one row is kept of every timestamp, and the result is sorted,
validated and saved.  An exception on the way leaves the file of that symbol as it is.
-/

import TradingEngine.Data.CandleValidation
import TradingEngine.Data.DateChunks

namespace TradingEngine.Data

open Domain

/-! ### Parameters of a run -/

/-- `INTRADAY_INTERVALS`. -/
def intradayIntervals : List String :=
  ["minute", "3minute", "5minute", "10minute", "15minute", "30minute", "60minute"]

structure UniverseConfig where
  exchange : Exchange
  symbols : List String

structure DownloadConfig where
  universeConfig : UniverseConfig
  interval : String
  fromDate : Datetime
  toDate : Datetime
  dataDir : String
  symbols : List String
  dryRun : Bool
  save : Bool
  chunkDays : ℤ
  replace : Bool

def DownloadConfig.targetSymbols (config : DownloadConfig) : List String :=
  if config.symbols.isEmpty then config.universeConfig.symbols else config.symbols

/-- An instrument dict; missing texts are empty. -/
structure RawInstrument where
  tradingsymbol : String
  exchange : String
  instrumentToken : Option ℤ

/-- What the broker answers, or the text of the exception it raises. -/
structure HistoricalBroker (C : Type) where
  getInstruments : String → Except String (List RawInstrument)
  getHistoricalData : ℤ → Datetime → Datetime → String →
    Except String (List (OrderedDict String C))

/-- How pandas compares the timestamp cells of a table; a missing one (`⊤`) comes last. -/
structure CellOrder (C K : Type) where
  key : C → WithTop K
  comparable : C → C → Bool

structure CandlePath where
  dataDir : String
  exchange : Exchange
  symbol : String
  interval : String
deriving DecidableEq

/-- `get_candle_file_path`. -/
def DownloadConfig.candleFilePath (config : DownloadConfig) (symbol : String) : CandlePath :=
  { dataDir := config.dataDir
    exchange := config.universeConfig.exchange
    symbol := symbol
    interval := config.interval }

abbrev CandleFiles {C : Type} (missing : C) : Type :=
  CandlePath → Option (CandleTable missing)

/-! ### `build_instrument_map` -/

def addInstrument (exchange : String) (lookup : OrderedDict String ℤ) (inst : RawInstrument) :
    OrderedDict String ℤ :=
  match inst.instrumentToken with
  | none => lookup
  | some token =>
      if inst.tradingsymbol ≠ "" ∧ (exchange = "" ∨ inst.exchange = exchange) then
        lookup.insert inst.tradingsymbol token
      else lookup

def buildInstrumentMap (instruments : List RawInstrument) (symbols : List String)
    (exchange : String) : OrderedDict String ℤ × List String :=
  let lookup := instruments.foldl (addInstrument exchange) OrderedDict.empty
  (symbols.foldl (fun found symbol =>
      ((lookup.get? symbol).map (found.insert symbol)).getD found) OrderedDict.empty,
    symbols.filter (fun symbol => (lookup.get? symbol).isNone))

/-! ### One symbol -/

section Symbol

variable {C V K : Type} [LinearOrder V] [Zero V] [LinearOrder K] (pandas : Pandas C V)
  (order : CellOrder C K)

/-- The key of a row under `subset=["timestamp"]` and `sort_values("timestamp")`. -/
def CellOrder.stamp (row : String → C) : WithTop K :=
  order.key (row "timestamp")

/-- `HistoricalDataDownloader.download(save=False)`. -/
def download (broker : HistoricalBroker C) (config : DownloadConfig) (token : ℤ)
    (symbol : String) (chunk : Chunk) :
    Except String (CandleTable pandas.missing × DataValidationReport) := do
  let raw ← broker.getHistoricalData token chunk.1 chunk.2 config.interval
  let table ← pandas.toDataframe raw
  return (table,
    pandas.validateOhlcvDataframe table symbol config.universeConfig.exchange config.interval)

def fetchChunks (broker : HistoricalBroker C) (config : DownloadConfig) (token : ℤ)
    (symbol : String) (chunks : List Chunk) : Except String (CandleTable pandas.missing) := do
  let answers ← chunks.mapM (download pandas broker config token symbol)
  let chunkTables := (answers.map Prod.fst).filter (fun table => ¬ table.rows.isEmpty)
  return if chunkTables.isEmpty then CandleTable.noCandles else CandleTable.concat chunkTables

/-- `pd.concat([df_existing, df_new])` when the file is read and exists. -/
def mergeExisting {missing : C} (config : DownloadConfig)
    (existing : Option (CandleTable missing)) (fetched : CandleTable missing) :
    CandleTable missing :=
  if config.save ∧ ¬ config.replace then
    existing.elim fetched (fun former => CandleTable.concat [former, fetched])
  else fetched

/-- `drop_duplicates(subset=["timestamp"]).sort_values("timestamp")`. -/
def dedupeAndSort {missing : C} (table : CandleTable missing) :
    Except String (CandleTable missing) :=
  if "timestamp" ∉ table.columns then .error "Index(['timestamp'])"
  else if ∃ left ∈ table.column "timestamp", ∃ right ∈ table.column "timestamp",
      order.comparable left right = false then
    .error "timestamps cannot be compared"
  else
    .ok (table.withRows (KeyedMerge.tidy order.stamp table.rows)
      (fun _ member => KeyedMerge.tidy_subset member))

/-- The body of the loop over the symbols, up to the saving. -/
def downloadSymbol (broker : HistoricalBroker C) (config : DownloadConfig) (token : ℤ)
    (symbol : String) (chunks : List Chunk) (existing : Option (CandleTable pandas.missing)) :
    Except String (CandleTable pandas.missing × DataValidationReport) := do
  let fetched ← fetchChunks pandas broker config token symbol chunks
  let merged ← dedupeAndSort order (mergeExisting config existing fetched)
  return (merged,
    pandas.validateOhlcvDataframe merged symbol config.universeConfig.exchange config.interval)

end Symbol

/-! ### `run_download` -/

structure DownloadResult where
  symbolsRequested : List String
  symbolsDownloaded : List String
  symbolsFailed : List String
  symbolsMissingToken : List String
  validationReports : OrderedDict String DataValidationReport
  filePaths : OrderedDict String CandlePath
  dryRun : Bool
  chunks : List Chunk

/-- Exceptions that leave `run_download`. -/
inductive DownloadError where
  | chunks (raised : ChunkError)
  | broker (text : String)
deriving DecidableEq

section Run

variable {C V K : Type} [LinearOrder V] [Zero V] [LinearOrder K] (pandas : Pandas C V)
  (order : CellOrder C K) (broker : HistoricalBroker C) (config : DownloadConfig)

/-- The results so far and the files. -/
structure DownloadProgress {C : Type} (missing : C) where
  downloaded : List String
  failed : List String
  reports : OrderedDict String DataValidationReport
  filePaths : OrderedDict String CandlePath
  files : CandleFiles missing

def symbolStep (tokens : OrderedDict String ℤ) (chunks : List Chunk)
    (progress : DownloadProgress pandas.missing) (symbol : String) :
    DownloadProgress pandas.missing :=
  let path := config.candleFilePath symbol
  match tokens.get? symbol with
  | none => progress
  | some token =>
      match downloadSymbol pandas order broker config token symbol chunks
          (progress.files path) with
      | .error _ => { progress with failed := progress.failed ++ [symbol] }
      | .ok (merged, report) =>
          { downloaded := progress.downloaded ++ [symbol]
            failed := progress.failed
            reports := progress.reports.insert symbol report
            filePaths :=
              if config.save then progress.filePaths.insert symbol path else progress.filePaths
            files :=
              if config.save then Function.update progress.files path (some merged)
              else progress.files }

def DownloadConfig.chunks : Except ChunkError (List Chunk) :=
  if config.interval ∈ intradayIntervals then
    splitDateRange config.fromDate config.toDate config.chunkDays
  else .ok [(config.fromDate, config.toDate)]

def runDownload (files : CandleFiles pandas.missing) :
    Except DownloadError (DownloadResult × CandleFiles pandas.missing) :=
  match config.chunks with
  | .error raised => .error (.chunks raised)
  | .ok chunks =>
      if config.dryRun then
        .ok ({ symbolsRequested := config.targetSymbols
               symbolsDownloaded := []
               symbolsFailed := []
               symbolsMissingToken := []
               validationReports := OrderedDict.empty
               filePaths := OrderedDict.empty
               dryRun := true
               chunks := chunks }, files)
      else
        match broker.getInstruments config.universeConfig.exchange.text with
        | .error text => .error (.broker text)
        | .ok instruments =>
            let (tokens, missing) := buildInstrumentMap instruments config.targetSymbols
              config.universeConfig.exchange.text
            let final := config.targetSymbols.foldl
              (symbolStep pandas order broker config tokens chunks)
              { downloaded := []
                failed := []
                reports := OrderedDict.empty
                filePaths := OrderedDict.empty
                files := files }
            .ok ({ symbolsRequested := config.targetSymbols
                   symbolsDownloaded := final.downloaded
                   symbolsFailed := final.failed
                   symbolsMissingToken := missing
                   validationReports := final.reports
                   filePaths := final.filePaths
                   dryRun := false
                   chunks := chunks }, final.files)

end Run

end TradingEngine.Data
