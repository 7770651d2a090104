/-
The analysis of a backtest report.

The fills of a report are paired into trades, which are measured as a whole, by several keys and
in two periods.  Every breakdown counts each trade once, so its groups add up to the whole, and
what a symbol is blamed for is what leaving it out changes.
-/

import Mathlib.Data.Prod.Lex
import Mathlib.Data.String.Basic
import TradingEngine.General.Grouping
import TradingEngine.Scripts.FillPairing

namespace TradingEngine.Scripts

variable {T : Type}

/-! ### The calendar -/

/-- The attributes of a `datetime` that the analysis reads. -/
structure Calendar (T : Type) where
  year : T → ℕ
  month : T → ℕ
  day : T → ℕ
  hour : T → ℕ

/-- A `date`, compared by year, month and day. -/
abbrev CalendarDate : Type := ℕ ×ₗ ℕ ×ₗ ℕ

def padded (width number : ℕ) : String :=
  let digits := toString number
  "".pushn '0' (width - digits.length) ++ digits

def CalendarDate.text (date : CalendarDate) : String :=
  let (year, month, day) := (ofLex date).map id ofLex
  padded 4 year ++ "-" ++ padded 2 month ++ "-" ++ padded 2 day

namespace Calendar

variable (calendar : Calendar T)

def date (moment : T) : CalendarDate :=
  toLex (calendar.year moment, toLex (calendar.month moment, calendar.day moment))

/-- The days of the common year before its months. -/
def daysBeforeMonth : List ℕ :=
  [0, 31, 59, 90, 120, 151, 181, 212, 243, 273, 304, 334]

def isLeap (year : ℕ) : Bool :=
  year % 4 = 0 ∧ (year % 100 ≠ 0 ∨ year % 400 = 0)

/-- `date.toordinal`, which counts days from the first of January of the year 1. -/
def toOrdinal (moment : T) : ℕ :=
  let before := calendar.year moment - 1
  before * 365 + before / 4 - before / 100 + before / 400 +
    daysBeforeMonth.getD (calendar.month moment - 1) 0 +
    (if 2 < calendar.month moment ∧ isLeap (calendar.year moment) then 1 else 0) +
    calendar.day moment

def weekday (moment : T) : ℕ :=
  (calendar.toOrdinal moment + 6) % 7

end Calendar

/-! ### `compute_metrics` -/

structure Metrics where
  tradeCount : ℕ
  totalNetPnl : ℚ
  totalGrossPnl : ℚ
  totalFees : ℚ
  winRate : Option ℚ
  profitFactor : Option ℚ
  avgNetPnl : Option ℚ
  avgGrossPnl : Option ℚ
  maxDrawdown : Option ℚ
  warning : Option String
deriving DecidableEq

structure Drawdown where
  cum : ℚ
  peak : ℚ
  dd : ℚ

def Drawdown.step (state : Drawdown) (pnl : ℚ) : Drawdown :=
  let cum := state.cum + pnl
  let peak := if state.peak < cum then cum else state.peak
  { cum := cum
    peak := peak
    dd := if 0 < peak then max state.dd ((peak - cum) / peak) else state.dd }

def maxDrawdown (netPnls : List ℚ) : ℚ :=
  (netPnls.foldl Drawdown.step { cum := 0, peak := 0, dd := 0 }).dd

/-- `sum(wins) / abs(sum(losses))`, with losses only. -/
def profitFactor (wins losses : List ℚ) : Option ℚ :=
  if losses = [] then none
  else
    let grossLoss := |losses.sum|
    if 0 < grossLoss then some (wins.sum / grossLoss) else none

def smallSampleWarning (count : ℕ) : Option String :=
  if count < 30 then
    some ("Small sample: only " ++ toString count ++
      " trades — interpret results with caution.")
  else none

def noMetrics : Metrics :=
  { tradeCount := 0
    totalNetPnl := 0
    totalGrossPnl := 0
    totalFees := 0
    winRate := none
    profitFactor := none
    avgNetPnl := none
    avgGrossPnl := none
    maxDrawdown := none
    warning := none }

def computeMetrics (trades : List (PairedTrade T)) : Metrics :=
  if trades.length = 0 then noMetrics
  else
    let netPnls := trades.map PairedTrade.netPnl
    let totalNet := netPnls.sum
    let totalGross := (trades.map PairedTrade.grossPnl).sum
    let wins := netPnls.filter (fun pnl => 0 < pnl)
    let losses := netPnls.filter (fun pnl => pnl < 0)
    { tradeCount := trades.length
      totalNetPnl := totalNet
      totalGrossPnl := totalGross
      totalFees := (trades.map PairedTrade.totalFees).sum
      winRate := some (wins.length / trades.length)
      profitFactor := TradingEngine.Scripts.profitFactor wins losses
      avgNetPnl := some (totalNet / trades.length)
      avgGrossPnl := some (totalGross / trades.length)
      maxDrawdown := some (TradingEngine.Scripts.maxDrawdown netPnls)
      warning := smallSampleWarning trades.length }

/-! ### The breakdowns -/

def dowNames : List String :=
  ["Monday", "Tuesday", "Wednesday", "Thursday", "Friday", "Saturday", "Sunday"]

def TradeSide.text : TradeSide → String
  | .long => "LONG"
  | .short => "SHORT"

namespace Calendar

variable (calendar : Calendar T)

def entryDate (trade : PairedTrade T) : CalendarDate :=
  calendar.date trade.entryTime

def entryMonth (trade : PairedTrade T) : String :=
  toString (calendar.year trade.entryTime) ++ "-" ++ padded 2 (calendar.month trade.entryTime)

def entryQuarter (trade : PairedTrade T) : String :=
  let quarter := (calendar.month trade.entryTime - 1) / 3 + 1
  toString (calendar.year trade.entryTime) ++ "-Q" ++ toString quarter

def entryDow (trade : PairedTrade T) : String :=
  dowNames.getD (calendar.weekday trade.entryTime) ""

def entryHour (trade : PairedTrade T) : String :=
  padded 2 (calendar.hour trade.entryTime) ++ ":xx"

end Calendar

def entrySide (trade : PairedTrade T) : String :=
  trade.side.text

def breakdownBy (keyFn : PairedTrade T → String) (trades : List (PairedTrade T)) :
    List (String × Metrics) :=
  Grouping.summarize keyFn computeMetrics trades

/-! ### Train and test -/

/-- An inclusive range of dates. -/
structure Period where
  start : CalendarDate
  stop : CalendarDate

def Period.Contains (period : Period) (date : CalendarDate) : Prop :=
  period.start ≤ date ∧ date ≤ period.stop

instance (period : Period) : DecidablePred period.Contains :=
  fun _date => inferInstanceAs (Decidable (_ ∧ _))

def Period.text (period : Period) : String :=
  CalendarDate.text period.start ++ " to " ++ CalendarDate.text period.stop

structure Split where
  train : Metrics
  test : Metrics

def Split.trainPnl (split : Split) : ℚ :=
  split.train.totalNetPnl

def Split.testPnl (split : Split) : ℚ :=
  split.test.totalNetPnl

structure TrainTest where
  trainPeriod : String
  testPeriod : String
  allSymbols : Split
  bySymbol : OrderedDict String Split
  bestTestSymbol : Option String
  worstTestSymbol : Option String
  netPositiveOos : List String
  excludedWorstTrainSymbol : Option String
  excludedWorstTest : Metrics

/-- `sorted({t["symbol"] for t in trades})`. -/
def tradedSymbols (trades : List (PairedTrade T)) : List String :=
  (trades.map PairedTrade.symbol).dedup.insertionSort (· ≤ ·)

def ofSymbol (trades : List (PairedTrade T)) (symbol : String) : List (PairedTrade T) :=
  trades.filter (fun trade => trade.symbol = symbol)

/-- The loop over the symbols. -/
def splitBySymbol (trainTrades testTrades : List (PairedTrade T)) (symbols : List String) :
    OrderedDict String Split :=
  Grouping.tabulate (fun symbol =>
    { train := computeMetrics (ofSymbol trainTrades symbol)
      test := computeMetrics (ofSymbol testTrades symbol) }) symbols

namespace Calendar

variable (calendar : Calendar T)

def splitByDate (trades : List (PairedTrade T)) (period : Period) : List (PairedTrade T) :=
  trades.filter (fun trade => period.Contains (calendar.entryDate trade))

def trainTestAnalysis (trades : List (PairedTrade T)) (train test : Period)
    (symbols : List String) : TrainTest :=
  let trainTrades := calendar.splitByDate trades train
  let testTrades := calendar.splitByDate trades test
  let allSyms := if symbols = [] then tradedSymbols trades else symbols
  let bySymbol := splitBySymbol trainTrades testTrades allSyms
  let worstTrain := Grouping.keyOfMin Split.trainPnl bySymbol
  { trainPeriod := train.text
    testPeriod := test.text
    allSymbols :=
      { train := computeMetrics trainTrades
        test := computeMetrics testTrades }
    bySymbol := bySymbol
    bestTestSymbol := Grouping.keyOfMax Split.testPnl bySymbol
    worstTestSymbol := Grouping.keyOfMin Split.testPnl bySymbol
    netPositiveOos :=
      (bySymbol.entries.filter (fun entry => 0 < entry.2.testPnl)).map Prod.fst
    excludedWorstTrainSymbol := worstTrain
    excludedWorstTest :=
      match worstTrain with
      | some symbol => computeMetrics (testTrades.filter (fun trade => trade.symbol ≠ symbol))
      | none => computeMetrics ([] : List (PairedTrade T)) }

end Calendar

/-! ### `analyze` -/

structure Findings where
  overall : Metrics
  bySymbol : List (String × Metrics)
  byMonth : List (String × Metrics)
  byQuarter : List (String × Metrics)
  byDayOfWeek : List (String × Metrics)
  bySide : List (String × Metrics)
  byEntryHour : List (String × Metrics)
  trainTest : TrainTest

structure Analysis where
  fillCount : ℕ
  tradeCount : ℕ
  symbols : List String
  warning : Option String
  findings : Option Findings

def Calendar.analyze (calendar : Calendar T) (fills : List (ReportFill T))
    (symbols : List String) (train test : Period) : Analysis :=
  let trades := pairFills fills
  { fillCount := fills.length
    tradeCount := trades.length
    symbols := tradedSymbols trades
    warning :=
      if trades = [] then some "No completed trades found — nothing to analyse." else none
    findings :=
      if trades = [] then none
      else some
        { overall := computeMetrics trades
          bySymbol := breakdownBy PairedTrade.symbol trades
          byMonth := breakdownBy calendar.entryMonth trades
          byQuarter := breakdownBy calendar.entryQuarter trades
          byDayOfWeek := breakdownBy calendar.entryDow trades
          bySide := breakdownBy entrySide trades
          byEntryHour := breakdownBy calendar.entryHour trades
          trainTest := calendar.trainTestAnalysis trades train test symbols } }

/-! ### Metrics as totals -/

@[simp] theorem tradeCount_computeMetrics (trades : List (PairedTrade T)) :
    (computeMetrics trades).tradeCount = trades.length := by
  cases trades with
  | nil => rfl
  | cons trade rest => rfl

@[simp] theorem totalNetPnl_computeMetrics (trades : List (PairedTrade T)) :
    (computeMetrics trades).totalNetPnl = (trades.map PairedTrade.netPnl).sum := by
  cases trades with
  | nil => rfl
  | cons trade rest => rfl

@[simp] theorem totalGrossPnl_computeMetrics (trades : List (PairedTrade T)) :
    (computeMetrics trades).totalGrossPnl = (trades.map PairedTrade.grossPnl).sum := by
  cases trades with
  | nil => rfl
  | cons trade rest => rfl

@[simp] theorem totalFees_computeMetrics (trades : List (PairedTrade T)) :
    (computeMetrics trades).totalFees = (trades.map PairedTrade.totalFees).sum := by
  cases trades with
  | nil => rfl
  | cons trade rest => rfl

/-- The number of winning trades, as the win rate tells it. -/
def Metrics.wins (metrics : Metrics) : ℚ :=
  metrics.winRate.getD 0 * metrics.tradeCount

theorem wins_computeMetrics (trades : List (PairedTrade T)) :
    (computeMetrics trades).wins =
      (trades.map (fun trade => if 0 < trade.netPnl then (1 : ℚ) else 0)).sum := by
  have counted : (trades.map (fun trade => if 0 < trade.netPnl then (1 : ℚ) else 0)).sum =
      ((trades.map PairedTrade.netPnl).filter (fun pnl => 0 < pnl)).length := by
    induction trades with
    | nil => rfl
    | cons trade rest ih =>
        rw [List.map_cons, List.sum_cons, ih, List.map_cons, List.filter_cons]
        by_cases won : 0 < trade.netPnl
        · simp [won, add_comm]
        · simp [won]
  rw [counted]
  cases trades with
  | nil => simp [Metrics.wins, computeMetrics, noMetrics]
  | cons trade rest =>
      have some_traded : (((trade :: rest).length : ℕ) : ℚ) ≠ 0 :=
        Nat.cast_ne_zero.mpr (Nat.succ_ne_zero rest.length)
      exact div_mul_cancel₀ _ some_traded

/-- Net and gross P&L of trades that pay their fees. -/
def Metrics.Balanced (metrics : Metrics) : Prop :=
  metrics.totalNetPnl + metrics.totalFees = metrics.totalGrossPnl

theorem balanced_computeMetrics {trades : List (PairedTrade T)}
    (each : ∀ trade ∈ trades, trade.netPnl + trade.totalFees = trade.grossPnl) :
    (computeMetrics trades).Balanced := by
  unfold Metrics.Balanced
  rw [totalNetPnl_computeMetrics, totalFees_computeMetrics, totalGrossPnl_computeMetrics,
    ← List.sum_map_add]
  exact congrArg List.sum (List.map_congr_left each)

theorem balanced_of_mem_pairFills {fills : List (ReportFill T)} {trade : PairedTrade T}
    (member : trade ∈ pairFills fills) : trade.netPnl + trade.totalFees = trade.grossPnl := by
  rcases trades_symbol noPairs fills trade member with none | ⟨fill, _listed, matching, rfl⟩
  · cases none
  · exact sub_add_cancel _ _

/-! ### Breakdowns add up -/

/-- A breakdown has one group for each key of the trades, in order, and its totals are those of
all trades. -/
structure AddsUp (keyFn : PairedTrade T → String) (trades : List (PairedTrade T))
    (breakdown : List (String × Metrics)) : Prop where
  keys : (breakdown.map Prod.fst).Pairwise (· < ·)
  groups : ∀ key metrics, (key, metrics) ∈ breakdown ↔
    (∃ trade ∈ trades, keyFn trade = key) ∧
      metrics = computeMetrics (trades.filter (fun trade => keyFn trade = key))
  tradeCount : (breakdown.map (fun group => group.2.tradeCount)).sum =
    (computeMetrics trades).tradeCount
  netPnl : (breakdown.map (fun group => group.2.totalNetPnl)).sum =
    (computeMetrics trades).totalNetPnl
  grossPnl : (breakdown.map (fun group => group.2.totalGrossPnl)).sum =
    (computeMetrics trades).totalGrossPnl
  fees : (breakdown.map (fun group => group.2.totalFees)).sum = (computeMetrics trades).totalFees
  wins : (breakdown.map (fun group => group.2.wins)).sum = (computeMetrics trades).wins

theorem addsUp_breakdownBy (keyFn : PairedTrade T → String) (trades : List (PairedTrade T)) :
    AddsUp keyFn trades (breakdownBy keyFn trades) where
  keys := Grouping.summarize_increasing
  groups := fun _key _metrics => Grouping.mem_summarize_iff
  tradeCount := by
    have each (chosen : List (PairedTrade T)) :
        (computeMetrics chosen).tradeCount = (chosen.map (fun _ => 1)).sum := by
      simp
    rw [each]
    exact Grouping.sum_summarize Metrics.tradeCount (fun _ => 1) (fun _key => each _)
  netPnl := by
    rw [totalNetPnl_computeMetrics]
    exact Grouping.sum_summarize Metrics.totalNetPnl PairedTrade.netPnl
      (fun _key => totalNetPnl_computeMetrics _)
  grossPnl := by
    rw [totalGrossPnl_computeMetrics]
    exact Grouping.sum_summarize Metrics.totalGrossPnl PairedTrade.grossPnl
      (fun _key => totalGrossPnl_computeMetrics _)
  fees := by
    rw [totalFees_computeMetrics]
    exact Grouping.sum_summarize Metrics.totalFees PairedTrade.totalFees
      (fun _key => totalFees_computeMetrics _)
  wins := by
    rw [wins_computeMetrics]
    exact Grouping.sum_summarize Metrics.wins _ (fun _key => wins_computeMetrics _)

/-! ### Two periods -/

theorem mem_tradedSymbols {trades : List (PairedTrade T)} {trade : PairedTrade T}
    (member : trade ∈ trades) : trade.symbol ∈ tradedSymbols trades :=
  (List.perm_insertionSort _ _).mem_iff.mpr
    (List.mem_dedup.mpr (List.mem_map_of_mem member))

/-- The symbols that a train and test analysis goes through. -/
def listedSymbols (trades : List (PairedTrade T)) (symbols : List String) : List String :=
  if symbols = [] then tradedSymbols trades else symbols

/-- No symbol of the trades is left out. -/
def CoversAll (symbols : List String) (trades : List (PairedTrade T)) : Prop :=
  symbols = [] ∨ ∀ trade ∈ trades, trade.symbol ∈ symbols

theorem listed_of_coversAll {symbols : List String} {trades : List (PairedTrade T)}
    (covers : CoversAll symbols trades) :
    ∀ trade ∈ trades, trade.symbol ∈ listedSymbols trades symbols := by
  intro trade member
  unfold listedSymbols
  split_ifs with empty
  · exact mem_tradedSymbols member
  · rcases covers with none_given | all
    · exact absurd none_given empty
    · exact all trade member

namespace Calendar

variable {calendar : Calendar T} {trades : List (PairedTrade T)} {train test : Period}
  {symbols : List String} {symbol : String} {split : Split}

def splitOf (calendar : Calendar T) (trades : List (PairedTrade T)) (train test : Period)
    (symbol : String) : Split :=
  { train := computeMetrics (ofSymbol (calendar.splitByDate trades train) symbol)
    test := computeMetrics (ofSymbol (calendar.splitByDate trades test) symbol) }

theorem get?_bySymbol_iff :
    (calendar.trainTestAnalysis trades train test symbols).bySymbol.get? symbol = some split ↔
      symbol ∈ listedSymbols trades symbols ∧ split = calendar.splitOf trades train test symbol :=
  Grouping.get?_tabulate_eq_some_iff

theorem sum_bySymbol (amount : Split → ℚ) (period : Period)
    (measured : ∀ symbol, amount (calendar.splitOf trades train test symbol) =
      ((ofSymbol (calendar.splitByDate trades period) symbol).map PairedTrade.netPnl).sum)
    (covers : CoversAll symbols trades) :
    ((calendar.trainTestAnalysis trades train test symbols).bySymbol.entries.map
        (fun entry => amount entry.2)).sum =
      ((calendar.splitByDate trades period).map PairedTrade.netPnl).sum := by
  have summed : ((calendar.trainTestAnalysis trades train test symbols).bySymbol.entries.map
      (fun entry => amount entry.2)).sum =
        ∑ symbol ∈ (listedSymbols trades symbols).toFinset,
          amount (calendar.splitOf trades train test symbol) :=
    Grouping.sum_tabulate (calendar.splitOf trades train test) (listedSymbols trades symbols) amount
  rw [summed, Finset.sum_congr rfl (fun symbol _ => measured symbol)]
  refine FifoLots.sum_by_key PairedTrade.symbol PairedTrade.netPnl _ ?_
  intro trade member
  exact List.mem_toFinset.mpr (listed_of_coversAll covers trade (List.mem_of_mem_filter member))

theorem net_without_symbol (chosen : List (PairedTrade T)) (symbol : String) :
    (computeMetrics (chosen.filter (fun trade => trade.symbol ≠ symbol))).totalNetPnl +
        (computeMetrics (ofSymbol chosen symbol)).totalNetPnl =
      (computeMetrics chosen).totalNetPnl := by
  simp only [totalNetPnl_computeMetrics]
  induction chosen with
  | nil => simp [ofSymbol]
  | cons trade rest ih =>
      unfold ofSymbol at ih ⊢
      by_cases own : trade.symbol = symbol
      · rw [List.filter_cons_of_neg (by simp [own]), List.filter_cons_of_pos (by simp [own]),
          List.map_cons, List.sum_cons, List.map_cons, List.sum_cons, ← ih]
        ring
      · rw [List.filter_cons_of_pos (by simp [own]), List.filter_cons_of_neg (by simp [own]),
          List.map_cons, List.sum_cons, List.map_cons, List.sum_cons, ← ih]
        ring

/-- Periods that do not overlap count a trade once at most, and all of them exactly when each is
entered in one of the two. -/
theorem length_periods (apart : train.stop < test.start) :
    (calendar.splitByDate trades train).length + (calendar.splitByDate trades test).length ≤
        trades.length ∧
      ((calendar.splitByDate trades train).length + (calendar.splitByDate trades test).length =
          trades.length ↔
        ∀ trade ∈ trades, train.Contains (calendar.entryDate trade) ∨
          test.Contains (calendar.entryDate trade)) := by
  have split : (calendar.splitByDate trades train).length +
      (calendar.splitByDate trades test).length =
        (trades.filter (fun trade => train.Contains (calendar.entryDate trade) ∨
          test.Contains (calendar.entryDate trade))).length := by
    refine Grouping.length_filter_add_of_disjoint ?_ trades
    intro trade inTrain inTest
    exact absurd (inTest.1.trans inTrain.2) (not_le.mpr apart)
  rw [split]
  refine ⟨List.length_filter_le _ _, ?_⟩
  rw [List.length_filter_eq_length_iff]
  simp only [decide_eq_true_eq]

/-- A train and test analysis: the symbols it lists, what they make up, which of them it picks,
and what the periods count. -/
structure SplitsFairly (calendar : Calendar T) (trades : List (PairedTrade T))
    (train test : Period) (symbols : List String) (analysis : TrainTest) : Prop where
  bySymbol : ∀ symbol split, analysis.bySymbol.get? symbol = some split ↔
    symbol ∈ listedSymbols trades symbols ∧ split = calendar.splitOf trades train test symbol
  wholeTrain : CoversAll symbols trades →
    (analysis.bySymbol.entries.map (fun entry => entry.2.trainPnl)).sum =
      analysis.allSymbols.train.totalNetPnl
  wholeTest : CoversAll symbols trades →
    (analysis.bySymbol.entries.map (fun entry => entry.2.testPnl)).sum =
      analysis.allSymbols.test.totalNetPnl
  best : ∀ best, analysis.bestTestSymbol = some best → ∃ chosen,
    analysis.bySymbol.get? best = some chosen ∧
      ∀ symbol split, analysis.bySymbol.get? symbol = some split →
        split.testPnl ≤ chosen.testPnl
  worst : ∀ worst, analysis.worstTestSymbol = some worst → ∃ chosen,
    analysis.bySymbol.get? worst = some chosen ∧
      ∀ symbol split, analysis.bySymbol.get? symbol = some split →
        chosen.testPnl ≤ split.testPnl
  positive : ∀ symbol, symbol ∈ analysis.netPositiveOos ↔ ∃ split,
    analysis.bySymbol.get? symbol = some split ∧ 0 < split.testPnl
  excluded : ∀ worst, analysis.excludedWorstTrainSymbol = some worst → ∃ chosen,
    analysis.bySymbol.get? worst = some chosen ∧
      (∀ symbol split, analysis.bySymbol.get? symbol = some split →
        chosen.trainPnl ≤ split.trainPnl) ∧
      (analysis.allSymbols.test.totalNetPnl < analysis.excludedWorstTest.totalNetPnl ↔
        chosen.testPnl < 0)
  periods : train.stop < test.start →
    (analysis.allSymbols.train.tradeCount + analysis.allSymbols.test.tradeCount = trades.length ↔
      ∀ trade ∈ trades, train.Contains (calendar.entryDate trade) ∨
        test.Contains (calendar.entryDate trade))

theorem splitsFairly_trainTestAnalysis (calendar : Calendar T) (trades : List (PairedTrade T))
    (train test : Period) (symbols : List String) :
    SplitsFairly calendar trades train test symbols
      (calendar.trainTestAnalysis trades train test symbols) where
  bySymbol := fun _symbol _split => get?_bySymbol_iff
  wholeTrain := by
    intro covers
    refine (sum_bySymbol Split.trainPnl train ?_ covers).trans ?_
    · intro symbol
      exact totalNetPnl_computeMetrics _
    · exact (totalNetPnl_computeMetrics _).symm
  wholeTest := by
    intro covers
    refine (sum_bySymbol Split.testPnl test ?_ covers).trans ?_
    · intro symbol
      exact totalNetPnl_computeMetrics _
    · exact (totalNetPnl_computeMetrics _).symm
  best := by
    intro best picked
    change Grouping.keyOfMax Split.testPnl _ = some best at picked
    exact Grouping.greatest_of_keyOfMax picked
  worst := by
    intro worst picked
    change Grouping.keyOfMin Split.testPnl _ = some worst at picked
    exact Grouping.least_of_keyOfMin picked
  positive := by
    intro symbol
    simp only [OrderedDict.get?_eq_some_iff]
    change symbol ∈ List.map Prod.fst (List.filter _ (OrderedDict.entries _)) ↔ _
    rw [List.mem_map]
    constructor
    · intro picked
      obtain ⟨⟨at_, split⟩, kept, same⟩ := picked
      obtain rfl : at_ = symbol := same
      obtain ⟨member, won⟩ := List.mem_filter.mp kept
      exact ⟨split, member, of_decide_eq_true won⟩
    · intro positive
      obtain ⟨split, member, won⟩ := positive
      exact ⟨(symbol, split), List.mem_filter.mpr ⟨member, decide_eq_true won⟩, rfl⟩
  excluded := by
    intro worst picked
    change Grouping.keyOfMin Split.trainPnl _ = some worst at picked
    obtain ⟨chosen, found, least⟩ := Grouping.least_of_keyOfMin picked
    refine ⟨chosen, found, least, ?_⟩
    have left : (calendar.trainTestAnalysis trades train test symbols).excludedWorstTest =
        computeMetrics ((calendar.splitByDate trades test).filter
          (fun trade => trade.symbol ≠ worst)) := by
      unfold trainTestAnalysis
      dsimp only
      rw [picked]
    have without := net_without_symbol (calendar.splitByDate trades test) worst
    have made : chosen = calendar.splitOf trades train test worst :=
      (get?_bySymbol_iff.mp found).2
    rw [left, made]
    change (computeMetrics _).totalNetPnl < _ ↔ (computeMetrics _).totalNetPnl < 0
    rw [← without]
    constructor
    · intro better
      linarith
    · intro lost
      linarith
  periods := by
    intro apart
    change (computeMetrics _).tradeCount + (computeMetrics _).tradeCount = _ ↔ _
    rw [tradeCount_computeMetrics, tradeCount_computeMetrics]
    exact (length_periods apart).2

end Calendar

/-! ### The whole analysis -/

/-- Six breakdowns of the same trades, each of which adds up to the whole, and their split. -/
structure FindingsAddUp (calendar : Calendar T) (trades : List (PairedTrade T))
    (train test : Period) (symbols : List String) (findings : Findings) : Prop where
  overall : findings.overall = computeMetrics trades
  balanced : findings.overall.Balanced
  bySymbol : AddsUp PairedTrade.symbol trades findings.bySymbol
  byMonth : AddsUp calendar.entryMonth trades findings.byMonth
  byQuarter : AddsUp calendar.entryQuarter trades findings.byQuarter
  byDayOfWeek : AddsUp calendar.entryDow trades findings.byDayOfWeek
  bySide : AddsUp entrySide trades findings.bySide
  byEntryHour : AddsUp calendar.entryHour trades findings.byEntryHour
  trainTest : calendar.SplitsFairly trades train test symbols findings.trainTest

/-- Without trades there is a warning, and else findings that add up. -/
def Analysis.AddsUp (calendar : Calendar T) (trades : List (PairedTrade T))
    (train test : Period) (symbols : List String) (analysis : Analysis) : Prop :=
  match analysis.findings with
  | none => trades = [] ∧ analysis.warning ≠ none
  | some findings => FindingsAddUp calendar trades train test symbols findings

end TradingEngine.Scripts
