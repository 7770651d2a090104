/-
What a valid candle table guarantees.

The checks rule out numbers that break a rule; they do not notice a number that is not there.
So a valid table is sound exactly when no price and no volume is missing.
-/

import Mathlib.Data.List.ReduceOption
import TradingEngine.Data.CandleValidation

namespace TradingEngine.Data.Pandas

open Domain

variable {C V : Type}

/-! ### Rows and tables -/

section Rows

variable [LinearOrder V] [Zero V] {pandas : Pandas C V}

/-- The numbers of a row that is a candle. -/
def SoundRow (pandas : Pandas C V) (row : String → C) : Prop :=
  ∃ opening high low close volume : V,
    pandas.toNumeric (row "open") = some opening ∧ pandas.toNumeric (row "high") = some high ∧
    pandas.toNumeric (row "low") = some low ∧ pandas.toNumeric (row "close") = some close ∧
    pandas.toNumeric (row "volume") = some volume ∧
    0 < opening ∧ 0 < high ∧ 0 < low ∧ 0 < close ∧ 0 ≤ volume ∧
    low ≤ opening ∧ opening ≤ high ∧ low ≤ close ∧ close ≤ high

/-- Every number is there. -/
def CompleteRow (pandas : Pandas C V) (row : String → C) : Prop :=
  ∀ col ∈ ["open", "high", "low", "close", "volume"], (pandas.toNumeric (row col)).isSome = true

/-- The numbers that are there break no rule. -/
structure PlausibleRow (pandas : Pandas C V) (row : String → C) : Prop where
  positive : ∀ col ∈ ["open", "high", "low", "close"],
    ∀ price ∈ pandas.toNumeric (row col), 0 < price
  volume : ∀ volume ∈ pandas.toNumeric (row "volume"), 0 ≤ volume
  high : ∀ high ∈ pandas.toNumeric (row "high"), ∀ col ∈ ["open", "close", "low"],
    ∀ price ∈ pandas.toNumeric (row col), price ≤ high
  low : ∀ low ∈ pandas.toNumeric (row "low"), ∀ col ∈ ["open", "close", "high"],
    ∀ price ∈ pandas.toNumeric (row col), low ≤ price

/-- The timestamps can be read, none is missing, and they increase strictly. -/
def IncreasingTimes (pandas : Pandas C V) (table : CandleTable pandas.missing) : Prop :=
  ∃ read, pandas.toDatetime (table.column "timestamp") = .ok read ∧
    ∃ instants : List Datetime, (table.column "timestamp").map read = instants.map some ∧
      instants.Pairwise (fun earlier later => earlier < later)

structure SoundTable (pandas : Pandas C V) (table : CandleTable pandas.missing) : Prop where
  rows : ∀ row ∈ table.rows, pandas.SoundRow row
  times : pandas.IncreasingTimes table

structure PlausibleTable (pandas : Pandas C V) (table : CandleTable pandas.missing) : Prop where
  columns : ∀ col ∈ requiredColumns, col ∈ table.columns
  nonempty : table.rows ≠ []
  rows : ∀ row ∈ table.rows, pandas.PlausibleRow row
  times : pandas.IncreasingTimes table

def CompleteTable (pandas : Pandas C V) (table : CandleTable pandas.missing) : Prop :=
  ∀ row ∈ table.rows, pandas.CompleteRow row

theorem soundRow_iff {row : String → C} :
    pandas.SoundRow row ↔ pandas.PlausibleRow row ∧ pandas.CompleteRow row := by
  constructor
  · rintro ⟨opening, high, low, close, volume, atOpen, atHigh, atLow, atClose, atVolume,
      openPositive, highPositive, lowPositive, closePositive, volumePositive,
      lowOpen, openHigh, lowClose, closeHigh⟩
    have lowHigh : low ≤ high := lowOpen.trans openHigh
    refine ⟨⟨?_, ?_, ?_, ?_⟩, ?_⟩
    · simp [atOpen, atHigh, atLow, atClose, openPositive, highPositive, lowPositive,
        closePositive]
    · simp [atVolume, volumePositive]
    · simp [atOpen, atHigh, atLow, atClose, openHigh, closeHigh, lowHigh]
    · simp [atOpen, atHigh, atLow, atClose, lowOpen, lowClose, lowHigh]
    · simp [CompleteRow, atOpen, atHigh, atLow, atClose, atVolume]
  · rintro ⟨unbroken, complete⟩
    have present (col : String) (listed : col ∈ ["open", "high", "low", "close", "volume"]) :
        ∃ number, pandas.toNumeric (row col) = some number :=
      Option.isSome_iff_exists.mp (complete col listed)
    obtain ⟨opening, atOpen⟩ := present "open" (by simp)
    obtain ⟨high, atHigh⟩ := present "high" (by simp)
    obtain ⟨low, atLow⟩ := present "low" (by simp)
    obtain ⟨close, atClose⟩ := present "close" (by simp)
    obtain ⟨volume, atVolume⟩ := present "volume" (by simp)
    exact ⟨opening, high, low, close, volume, atOpen, atHigh, atLow, atClose, atVolume,
      unbroken.positive "open" (by simp) opening atOpen,
      unbroken.positive "high" (by simp) high atHigh,
      unbroken.positive "low" (by simp) low atLow,
      unbroken.positive "close" (by simp) close atClose,
      unbroken.volume volume atVolume,
      unbroken.low low atLow "open" (by simp) opening atOpen,
      unbroken.high high atHigh "open" (by simp) opening atOpen,
      unbroken.low low atLow "close" (by simp) close atClose,
      unbroken.high high atHigh "close" (by simp) close atClose⟩

end Rows

/-! ### The checks of a row -/

section Checks

variable [LinearOrder V] {pandas : Pandas C V} {row : String → C}

theorem less_eq_false_iff {x y : Option V} :
    less x y = false ↔ ∀ left ∈ x, ∀ right ∈ y, right ≤ left := by
  cases x <;> cases y <;> simp [less]

theorem nonPositive_eq_false_iff [Zero V] {col : String} :
    pandas.nonPositive col row = false ↔ ∀ price ∈ pandas.toNumeric (row col), 0 < price := by
  unfold nonPositive
  cases pandas.toNumeric (row col) <;> simp

theorem negativeVolume_eq_false_iff [Zero V] :
    pandas.negativeVolume row = false ↔
      ∀ volume ∈ pandas.toNumeric (row "volume"), 0 ≤ volume := by
  unfold negativeVolume
  cases pandas.toNumeric (row "volume") <;> simp

theorem badHigh_eq_false_iff :
    pandas.badHigh row = false ↔ ∀ high ∈ pandas.toNumeric (row "high"),
      ∀ col ∈ ["open", "close", "low"], ∀ price ∈ pandas.toNumeric (row col), price ≤ high := by
  simp only [badHigh, Bool.or_eq_false_iff, less_eq_false_iff, List.forall_mem_cons,
    List.not_mem_nil, false_implies, implies_true, and_true, and_assoc]
  exact ⟨fun checks high here =>
      ⟨checks.1 high here, checks.2.1 high here, checks.2.2 high here⟩,
    fun rule => ⟨fun high here => (rule high here).1, fun high here => (rule high here).2.1,
      fun high here => (rule high here).2.2⟩⟩

theorem badLow_eq_false_iff :
    pandas.badLow row = false ↔ ∀ low ∈ pandas.toNumeric (row "low"),
      ∀ col ∈ ["open", "close", "high"], ∀ price ∈ pandas.toNumeric (row col), low ≤ price := by
  simp only [badLow, Bool.or_eq_false_iff, less_eq_false_iff, List.forall_mem_cons,
    List.not_mem_nil, false_implies, implies_true, and_true, and_assoc]
  exact ⟨fun checks low here => ⟨fun price there => checks.1 price there low here,
      fun price there => checks.2.1 price there low here,
      fun price there => checks.2.2 price there low here⟩,
    fun rule => ⟨fun price there low here => (rule low here).1 price there,
      fun price there low here => (rule low here).2.1 price there,
      fun price there low here => (rule low here).2.2 price there⟩⟩

theorem plausibleRow_iff [Zero V] :
    pandas.PlausibleRow row ↔
      (∀ col ∈ ["open", "high", "low", "close"], pandas.nonPositive col row = false) ∧
        pandas.negativeVolume row = false ∧ pandas.badHigh row = false ∧
        pandas.badLow row = false := by
  simp only [nonPositive_eq_false_iff, negativeVolume_eq_false_iff, badHigh_eq_false_iff,
    badLow_eq_false_iff]
  exact ⟨fun unbroken => ⟨unbroken.positive, unbroken.volume, unbroken.high, unbroken.low⟩,
    fun checks => ⟨checks.1, checks.2.1, checks.2.2.1, checks.2.2.2⟩⟩

end Checks

/-! ### The issues of a table -/

section Issues

variable {pandas : Pandas C V} {table : CandleTable pandas.missing} {symbol : String}
  {times : List Stamp}

def hasErrors (issues : List DataValidationIssue) : Bool :=
  issues.any (fun issue => issue.severity = .error)

theorem hasErrors_flagRows {bad : (String → C) → Bool}
    {issue : ℕ → (String → C) → DataValidationIssue}
    (errors : ∀ index row, (issue index row).severity = .error) :
    hasErrors (pandas.flagRows table bad issue) = false ↔ ∀ row ∈ table.rows, bad row = false := by
  constructor
  · intro clean row member
    by_contra found
    obtain ⟨index, inside, rfl⟩ := List.getElem_of_mem member
    have listed : (table.rows[index], index) ∈ table.rows.zipIdx := by
      simp [List.mem_zipIdx_iff_getElem?]
    have reported : issue index table.rows[index] ∈ pandas.flagRows table bad issue :=
      List.mem_filterMap.mpr ⟨_, listed, if_pos (by simpa using found)⟩
    have severe := List.any_eq_false.mp clean _ reported
    simp [errors] at severe
  · intro clean
    have nothing : pandas.flagRows table bad issue = [] := by
      apply List.filterMap_eq_nil_iff.mpr
      intro entry listed
      have member : entry.1 ∈ table.rows := List.fst_mem_of_mem_zipIdx listed
      simp [clean entry.1 member]
    rw [nothing]
    rfl

theorem duplicated_eq_nil_iff {α : Type} [DecidableEq α] {seen values : List α} :
    duplicated seen values = [] ↔ values.Nodup ∧ ∀ value ∈ values, value ∉ seen := by
  induction values generalizing seen with
  | nil => simp [duplicated]
  | cons value rest ih =>
      rw [duplicated]
      split_ifs with repeated
      · simp [repeated]
      · rw [ih]
        simp only [List.mem_cons, not_or, List.nodup_cons, forall_eq_or_imp]
        constructor
        · rintro ⟨distinct, fresh⟩
          exact ⟨⟨fun later => (fresh value later).1 rfl, distinct⟩, repeated,
            fun other later => (fresh other later).2⟩
        · rintro ⟨⟨apart, distinct⟩, _first, fresh⟩
          exact ⟨distinct, fun other later =>
            ⟨fun same => apart (same ▸ later), fresh other later⟩⟩

theorem hasErrors_duplicateIssues :
    hasErrors (pandas.duplicateIssues symbol times) = false ↔ times.Nodup := by
  have none_iff : duplicated [] times = [] ↔ times.Nodup := by
    rw [duplicated_eq_nil_iff]
    exact and_iff_left fun value _member => List.not_mem_nil
  rw [← none_iff]
  cases found : duplicated [] times with
  | nil => simp [duplicateIssues, found, KeyedMerge.keepFirst, hasErrors]
  | cons time rest =>
      simp [duplicateIssues, found, KeyedMerge.keepFirst, hasErrors, errorAt]

theorem eq_map_reduceOption (present : ∀ time ∈ times, time.isSome = true) :
    times = times.reduceOption.map some := by
  induction times with
  | nil => rfl
  | cons time rest ih =>
      obtain ⟨instant, rfl⟩ := Option.isSome_iff_exists.mp (present time List.mem_cons_self)
      rw [List.reduceOption_cons_of_some, List.map_cons,
        ← ih fun later member => present later (List.mem_cons_of_mem _ member)]

theorem isMonotonicIncreasing_iff :
    isMonotonicIncreasing times = true ↔ ∃ instants : List Datetime,
      times = instants.map some ∧ instants.Pairwise (fun earlier later => earlier ≤ later) := by
  simp only [isMonotonicIncreasing, decide_eq_true_eq, List.all_eq_true]
  constructor
  · rintro ⟨present, sorted⟩
    exact ⟨times.reduceOption, eq_map_reduceOption present, sorted⟩
  · rintro ⟨instants, rfl, sorted⟩
    have reduced : (instants.map some).reduceOption = instants := by
      simp [List.reduceOption, List.filterMap_map]
    refine ⟨?_, by rwa [reduced]⟩
    intro time member
    obtain ⟨instant, _listed, rfl⟩ := List.mem_map.mp member
    rfl

theorem increasing_iff :
    (times.Nodup ∧ isMonotonicIncreasing times = true) ↔ ∃ instants : List Datetime,
      times = instants.map some ∧ instants.Pairwise (fun earlier later => earlier < later) := by
  rw [isMonotonicIncreasing_iff]
  constructor
  · rintro ⟨distinct, instants, rfl, sorted⟩
    have apart : instants.Nodup := distinct.of_map some
    exact ⟨instants, rfl, (sorted.and apart).imp fun order => lt_of_le_of_ne order.1 order.2⟩
  · rintro ⟨instants, rfl, increasing⟩
    have apart : instants.Nodup := increasing.imp fun order => ne_of_lt order
    exact ⟨apart.map (Option.some_injective _), instants, rfl,
      increasing.imp fun order => order.le⟩

theorem hasErrors_sortIssues :
    hasErrors (sortIssues symbol times) = false ↔
      times = [] ∨ isMonotonicIncreasing times = true := by
  unfold sortIssues
  split_ifs with unsorted
  · simp [hasErrors, errorAt, unsorted.1, unsorted.2]
  · have fine : times = [] ∨ isMonotonicIncreasing times = true := by
      by_contra wrong
      rw [not_or, Bool.not_eq_true] at wrong
      exact unsorted wrong
    exact ⟨fun _ => fine, fun _ => rfl⟩

theorem hasErrors_gapIssues {interval : String} :
    hasErrors (pandas.gapIssues symbol interval times) = false := by
  unfold gapIssues
  cases intervalMinutes.lookup interval with
  | none => rfl
  | some minutes =>
      dsimp only
      split_ifs with several
      · simp [hasErrors]
      · rfl

theorem hasErrors_timestamps (symbol : String) (nonempty : table.rows ≠ []) :
    (hasErrors (pandas.readTimestamps table symbol).2 = false ∧
        hasErrors (pandas.duplicateIssues symbol (pandas.readTimestamps table symbol).1) =
          false ∧
        hasErrors (sortIssues symbol (pandas.readTimestamps table symbol).1) = false) ↔
      pandas.IncreasingTimes table := by
  rw [hasErrors_duplicateIssues, hasErrors_sortIssues]
  unfold readTimestamps IncreasingTimes
  cases pandas.toDatetime (table.column "timestamp") with
  | error text => simp [hasErrors, errorAt]
  | ok read =>
      have timed : (table.column "timestamp").map read ≠ [] := by
        simpa [CandleTable.column] using nonempty
      simp only [timed, false_or, Except.ok.injEq, exists_eq_left']
      rw [increasing_iff]
      simp [hasErrors]

end Issues

/-! ### What is valid -/

section Reports

variable [LinearOrder V] [Zero V] {pandas : Pandas C V} {table : CandleTable pandas.missing}

omit [LinearOrder V] [Zero V] in
theorem hasErrors_append {first second : List DataValidationIssue} :
    hasErrors (first ++ second) = false ↔ hasErrors first = false ∧ hasErrors second = false := by
  simp [hasErrors, List.any_append]

theorem hasErrors_prices {symbol : String} :
    hasErrors (["open", "high", "low", "close"].flatMap (pandas.priceIssues table symbol)) =
        false ↔
      ∀ row ∈ table.rows, ∀ col ∈ ["open", "high", "low", "close"],
        pandas.nonPositive col row = false := by
  have columns : hasErrors (["open", "high", "low", "close"].flatMap
        (pandas.priceIssues table symbol)) = false ↔
      ∀ col ∈ ["open", "high", "low", "close"],
        hasErrors (pandas.priceIssues table symbol col) = false := by
    simp only [hasErrors, List.any_flatMap, List.any_eq_false, Bool.not_eq_true]
  rw [columns]
  constructor
  · intro clean row member col listed
    exact (hasErrors_flagRows fun index row => rfl).mp (clean col listed) row member
  · intro clean col listed
    exact (hasErrors_flagRows fun index row => rfl).mpr fun row member =>
      clean row member col listed

theorem hasErrors_findings (symbol interval : String) (nonempty : table.rows ≠ []) :
    hasErrors (pandas.findings table symbol interval) = false ↔
      (∀ row ∈ table.rows, pandas.PlausibleRow row) ∧ pandas.IncreasingTimes table := by
  have volumes : hasErrors (pandas.volumeIssues table symbol) = false ↔
      ∀ row ∈ table.rows, pandas.negativeVolume row = false :=
    hasErrors_flagRows fun index row => rfl
  have highs : hasErrors (pandas.highIssues table symbol) = false ↔
      ∀ row ∈ table.rows, pandas.badHigh row = false :=
    hasErrors_flagRows fun index row => rfl
  have lows : hasErrors (pandas.lowIssues table symbol) = false ↔
      ∀ row ∈ table.rows, pandas.badLow row = false :=
    hasErrors_flagRows fun index row => rfl
  rw [← hasErrors_timestamps symbol nonempty]
  simp only [findings, hasErrors_append, hasErrors_prices, volumes, highs, lows,
    hasErrors_gapIssues, plausibleRow_iff, and_true]
  constructor
  · rintro ⟨⟨⟨⟨⟨⟨read, distinct⟩, positive⟩, volume⟩, high⟩, low⟩, sorted⟩
    exact ⟨fun row member => ⟨positive row member, volume row member, high row member,
      low row member⟩, read, distinct, sorted⟩
  · rintro ⟨rows, read, distinct, sorted⟩
    exact ⟨⟨⟨⟨⟨⟨read, distinct⟩, fun row member => (rows row member).1⟩,
      fun row member => (rows row member).2.1⟩, fun row member => (rows row member).2.2.1⟩,
      fun row member => (rows row member).2.2.2⟩, sorted⟩

theorem isValid_iff {symbol interval : String} {exchange : Exchange} :
    (pandas.validateOhlcvDataframe table symbol exchange interval).isValid = true ↔
      pandas.PlausibleTable table := by
  unfold validateOhlcvDataframe
  dsimp only
  by_cases lacking : requiredColumns.filter (fun col => col ∉ table.columns) ≠ []
  · rw [if_pos lacking]
    refine iff_of_false Bool.false_ne_true fun unbroken => lacking ?_
    exact List.filter_eq_nil_iff.mpr fun col listed absent =>
      of_decide_eq_true absent (unbroken.columns col listed)
  · rw [if_neg lacking]
    have columns : ∀ col ∈ requiredColumns, col ∈ table.columns := by
      intro col listed
      have present := List.filter_eq_nil_iff.mp (not_not.mp lacking) col listed
      simpa using present
    by_cases empty : table.rows.isEmpty = true
    · rw [if_pos empty]
      refine iff_of_false Bool.false_ne_true fun unbroken => unbroken.nonempty ?_
      exact List.isEmpty_iff.mp empty
    · rw [if_neg empty]
      have nonempty : table.rows ≠ [] := fun none => empty (List.isEmpty_iff.mpr none)
      have flag : (decide ¬ (pandas.findings table symbol interval).any
            (fun issue => issue.severity = .error) = true) = true ↔
          hasErrors (pandas.findings table symbol interval) = false := by
        simp [hasErrors]
      rw [flag, hasErrors_findings symbol interval nonempty]
      exact ⟨fun found => ⟨columns, nonempty, found.1, found.2⟩,
        fun unbroken => ⟨unbroken.rows, unbroken.times⟩⟩

/-- Validity means soundness exactly where no number is missing, or a number that is there
already breaks a rule. -/
theorem valid_imp_sound_iff {symbol interval : String} {exchange : Exchange} :
    ((pandas.validateOhlcvDataframe table symbol exchange interval).isValid = true →
        pandas.SoundTable table) ↔
      pandas.CompleteTable table ∨ ¬ pandas.PlausibleTable table := by
  rw [isValid_iff]
  constructor
  · intro sound
    by_cases unbroken : pandas.PlausibleTable table
    · exact Or.inl fun row member => (soundRow_iff.mp ((sound unbroken).rows row member)).2
    · exact Or.inr unbroken
  · rintro (complete | broken) unbroken
    · exact
        { rows := fun row member =>
            soundRow_iff.mpr ⟨unbroken.rows row member, complete row member⟩
          times := unbroken.times }
    · exact absurd unbroken broken

omit [LinearOrder V] in
theorem volume_present {raw : List (OrderedDict String C)} {row : String → C}
    (converted : pandas.toDataframe raw = .ok table) (has : "volume" ∈ table.columns)
    (member : row ∈ table.rows) : (pandas.toNumeric (row "volume")).isSome = true := by
  unfold toDataframe integerVolume at converted
  split_ifs at converted with blank overflow
  · cases converted
    cases member
  · obtain rfl := Except.ok.inj converted
    rw [CandleTable.columns_mapColumn] at has
    rw [CandleTable.rows_mapColumn _ has] at member
    obtain ⟨former, present, rfl⟩ := List.mem_map.mp member
    dsimp only
    rw [if_pos rfl, pandas.toNumeric_ofNumeric]
    by_contra lost
    rw [Bool.not_eq_true, Option.isSome_eq_false_iff] at lost
    exact overflow ⟨has, List.any_eq_true.mpr ⟨_, List.mem_map.mpr ⟨former, present, rfl⟩, lost⟩⟩

end Reports

/-! ### A candle without an open -/

/-- A raw candle whose open is the text "n/a". -/
def brokenOpen : OrderedDict String PlainCell :=
  { entries := [("date", .time 0), ("open", .text "n/a"), ("high", .number (some 110)),
      ("low", .number (some 90)), ("close", .number (some 100)), ("volume", .number (some 7))]
    distinct := by decide }

/-- Its table is valid, and its only row has no open. -/
theorem brokenOpen_valid_not_sound :
    ∃ table, plainPandas.toDataframe [brokenOpen] = .ok table ∧
      (plainPandas.validateOhlcvDataframe table "INFY" .nse "day").isValid = true ∧
      ¬ plainPandas.SoundTable table := by
  refine ⟨_, rfl, by decide +kernel, fun sound => ?_⟩
  obtain ⟨opening, _high, _low, _close, _volume, atOpen, _others⟩ :=
    sound.rows _ List.mem_cons_self
  cases atOpen

end TradingEngine.Data.Pandas
