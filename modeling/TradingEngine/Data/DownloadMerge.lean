/-
What a download does to an existing file.

The rows of the file win over fetched rows with their timestamps, of the fetched rows with one
new timestamp the first is kept, and downloading the same rows again changes nothing.
-/

import TradingEngine.Data.Download

namespace TradingEngine.Data

variable {C V K : Type} [LinearOrder V] [Zero V] [LinearOrder K] {pandas : Pandas C V}
  {order : CellOrder C K} {broker : HistoricalBroker C} {config : DownloadConfig}

/-! ### One symbol -/

section Symbol

variable {missing : C} {table merged fetched : CandleTable missing}
  {existing : Option (CandleTable missing)}

theorem dedupeAndSort_eq_ok_iff :
    dedupeAndSort order table = .ok merged ↔
      "timestamp" ∈ table.columns ∧
      (∀ left ∈ table.column "timestamp", ∀ right ∈ table.column "timestamp",
        order.comparable left right = true) ∧
      merged.columns = table.columns ∧ merged.rows = KeyedMerge.tidy order.stamp table.rows := by
  unfold dedupeAndSort
  by_cases has : "timestamp" ∈ table.columns
  · rw [if_neg (not_not.mpr has)]
    by_cases apart : ∃ left ∈ table.column "timestamp", ∃ right ∈ table.column "timestamp",
        order.comparable left right = false
    · rw [if_pos apart]
      refine iff_of_false nofun fun found => ?_
      obtain ⟨left, leftListed, right, rightListed, differs⟩ := apart
      rw [found.2.1 left leftListed right rightListed] at differs
      cases differs
    · rw [if_neg apart, Except.ok.injEq, CandleTable.ext_iff]
      constructor
      · rintro ⟨columns, rows⟩
        refine ⟨has, fun left leftListed right rightListed => ?_, columns.symm, rows.symm⟩
        by_contra differs
        exact apart ⟨left, leftListed, right, rightListed, Bool.eq_false_of_not_eq_true differs⟩
      · rintro ⟨_has, _comparable, columns, rows⟩
        exact ⟨columns.symm, rows.symm⟩
  · rw [if_pos has]
    exact iff_of_false nofun fun found => has found.1

theorem mergeExisting_some (former : CandleTable missing)
    (merging : config.save = true ∧ ¬ config.replace = true) :
    mergeExisting config (some former) fetched = CandleTable.concat [former, fetched] :=
  if_pos merging

theorem fetched_subset (config : DownloadConfig) (existing : Option (CandleTable missing))
    (fetched : CandleTable missing) :
    (∀ column ∈ fetched.columns, column ∈ (mergeExisting config existing fetched).columns) ∧
      ∀ row ∈ fetched.rows, row ∈ (mergeExisting config existing fetched).rows := by
  unfold mergeExisting
  split_ifs with merging
  · cases existing with
    | none => exact ⟨fun _ listed => listed, fun _ listed => listed⟩
    | some former =>
        constructor
        · intro column listed
          exact KeyedMerge.mem_keepFirst_id.mpr (by simp [listed])
        · intro row listed
          simp [CandleTable.concat, listed]
  · exact ⟨fun _ listed => listed, fun _ listed => listed⟩

theorem dedupeAndSort_again
    (sorted : dedupeAndSort order (mergeExisting config existing fetched) = .ok merged) :
    dedupeAndSort order (mergeExisting config (some merged) fetched) = .ok merged := by
  by_cases merging : config.save = true ∧ ¬ config.replace = true
  · obtain ⟨has, comparable, columns, rows⟩ := dedupeAndSort_eq_ok_iff.mp sorted
    obtain ⟨columnsFetched, rowsFetched⟩ := fetched_subset config existing fetched
    have nothing_new : KeyedMerge.keepFirst id (merged.columns ++ fetched.columns) =
        merged.columns := by
      refine KeyedMerge.keepFirst_append_of_covered merged.distinct fun column listed => ?_
      exact ⟨column, columns ▸ columnsFetched column listed, rfl⟩
    have rows_again : KeyedMerge.tidy order.stamp (merged.rows ++ fetched.rows) =
        merged.rows := by
      rw [rows]
      exact KeyedMerge.tidy_append_of_covered fun row listed =>
        ⟨row, rowsFetched row listed, rfl⟩
    have cells : ∀ cell ∈ (CandleTable.concat [merged, fetched]).column "timestamp",
        cell ∈ (mergeExisting config existing fetched).column "timestamp" := by
      intro cell listed
      obtain ⟨row, member, rfl⟩ := List.mem_map.mp listed
      refine List.mem_map.mpr ⟨row, ?_, rfl⟩
      rcases (by simpa [CandleTable.concat] using member : row ∈ merged.rows ∨
          row ∈ fetched.rows) with former | new
      · exact KeyedMerge.tidy_subset (rows ▸ former)
      · exact rowsFetched row new
    rw [mergeExisting_some merged merging]
    refine dedupeAndSort_eq_ok_iff.mpr ⟨?_, ?_, ?_, ?_⟩
    · refine KeyedMerge.mem_keepFirst_id.mpr ?_
      simp [columns, has]
    · exact fun left leftListed right rightListed =>
        comparable left (cells left leftListed) right (cells right rightListed)
    · simpa [CandleTable.concat] using nothing_new.symm
    · simpa [CandleTable.concat] using rows_again.symm
  · unfold mergeExisting at sorted ⊢
    rw [if_neg merging] at sorted ⊢
    exact sorted

end Symbol

section Download

variable {token : ℤ} {symbol : String} {chunks : List Chunk}
  {existing merged fetched : CandleTable pandas.missing} {report : DataValidationReport}

theorem downloadSymbol_eq_ok_iff {former : Option (CandleTable pandas.missing)} :
    downloadSymbol pandas order broker config token symbol chunks former = .ok (merged, report) ↔
      ∃ fetched, fetchChunks pandas broker config token symbol chunks = .ok fetched ∧
        dedupeAndSort order (mergeExisting config former fetched) = .ok merged ∧
        pandas.validateOhlcvDataframe merged symbol config.universeConfig.exchange
          config.interval = report := by
  unfold downloadSymbol
  cases fetchChunks pandas broker config token symbol chunks with
  | error text => exact iff_of_false nofun (by rintro ⟨_, impossible, _⟩; cases impossible)
  | ok fetched =>
      cases sorted : dedupeAndSort order (mergeExisting config former fetched) with
      | error text =>
          refine iff_of_false (by simp [sorted, bind, Except.bind]) ?_
          rintro ⟨other, same, impossible, _⟩
          cases same
          rw [sorted] at impossible
          cases impossible
      | ok settled =>
          simp only [bind, Except.bind, sorted, pure, Except.pure, Except.ok.injEq,
            Prod.mk.injEq, exists_eq_left']
          constructor
          · rintro ⟨rfl, rfl⟩
            exact ⟨rfl, rfl⟩
          · rintro ⟨rfl, rfl⟩
            exact ⟨rfl, rfl⟩

theorem downloadSymbol_again {former : Option (CandleTable pandas.missing)}
    (downloaded : downloadSymbol pandas order broker config token symbol chunks former =
      .ok (merged, report)) :
    downloadSymbol pandas order broker config token symbol chunks (some merged) =
      .ok (merged, report) := by
  obtain ⟨fetched, fetching, sorted, reported⟩ := downloadSymbol_eq_ok_iff.mp downloaded
  exact downloadSymbol_eq_ok_iff.mpr ⟨fetched, fetching, dedupeAndSort_again sorted, reported⟩

/-- What a merge owes to the file and to the fetched rows. -/
structure MergedSafely (order : CellOrder C K)
    (existing fetched merged : CandleTable pandas.missing) : Prop where
  kept : ∀ row ∈ existing.rows, row ∈ merged.rows
  sorted : merged.rows.Pairwise (fun earlier later => order.stamp earlier < order.stamp later)
  added : ∀ row ∈ fetched.rows, (∀ old ∈ existing.rows, order.stamp old ≠ order.stamp row) →
    ∃ first ∈ merged.rows,
      fetched.rows.find? (fun other => order.stamp other = order.stamp row) = some first
  nothingElse : ∀ row ∈ merged.rows, row ∈ existing.rows ∨ row ∈ fetched.rows

/-- Merging a download into a file with distinct timestamps is safe, and repeating it changes
nothing. -/
theorem downloadSymbol_mergedSafely (saving : config.save = true)
    (keeping : config.replace = false)
    (distinct : KeyedMerge.Distinct order.stamp existing.rows)
    (fetching : fetchChunks pandas broker config token symbol chunks = .ok fetched)
    (downloaded : downloadSymbol pandas order broker config token symbol chunks
      (some existing) = .ok (merged, report)) :
    MergedSafely order existing fetched merged ∧
      downloadSymbol pandas order broker config token symbol chunks (some merged) =
        .ok (merged, report) := by
  refine ⟨?_, downloadSymbol_again downloaded⟩
  obtain ⟨again, fetchedAgain, settled, _reported⟩ := downloadSymbol_eq_ok_iff.mp downloaded
  obtain rfl : fetched = again := Except.ok.inj (fetching.symm.trans fetchedAgain)
  obtain ⟨_has, _comparable, _columns, tidied⟩ := dedupeAndSort_eq_ok_iff.mp settled
  have merging : config.save = true ∧ ¬ config.replace = true := ⟨saving, by simp [keeping]⟩
  have rows : merged.rows = KeyedMerge.merge order.stamp existing.rows fetched.rows := by
    rw [tidied, mergeExisting_some existing merging]
    simp [CandleTable.concat, KeyedMerge.merge]
  exact
    { kept := fun row member => rows ▸ KeyedMerge.mem_merge_of_old distinct member
      sorted := rows ▸ KeyedMerge.tidy_sorted _
      added := by
        intro row member fresh
        obtain ⟨first, present, same⟩ := KeyedMerge.exists_mem_keepFirst order.stamp member
        have found := KeyedMerge.mem_keepFirst_iff.mp present
        refine ⟨first, ?_, same ▸ found⟩
        rw [rows]
        refine (KeyedMerge.mem_merge_iff_of_fresh fun old listed => ?_).mpr found
        exact same ▸ fresh old listed
      nothingElse := by
        intro row member
        exact List.mem_append.mp (KeyedMerge.tidy_subset (rows ▸ member)) }

end Download

/-! ### Two rows for one new timestamp -/

def plainOrder : CellOrder PlainCell Datetime :=
  { key := fun
      | .time instant => (instant : WithTop Datetime)
      | _ => ⊤
    comparable := fun _ _ => true }

def plainCandle (instant close : ℤ) : OrderedDict String PlainCell :=
  { entries := [("date", .time instant), ("open", .number (some 100)),
      ("high", .number (some 110)), ("low", .number (some 90)),
      ("close", .number (some close)), ("volume", .number (some 7))]
    distinct := by
      change ["date", "open", "high", "low", "close", "volume"].Nodup
      decide }

def plainTable (raw : List (OrderedDict String PlainCell)) : CandleTable plainPandas.missing :=
  plainPandas.renameDate (CandleTable.ofDicts raw)

/-- The candle of the file again, and two candles of the next day. -/
def plainBroker : HistoricalBroker PlainCell :=
  { getInstruments := fun _ => .ok []
    getHistoricalData := fun _ _ _ _ =>
      .ok [plainCandle 0 105, plainCandle 1 101, plainCandle 1 102] }

def dailyConfig : DownloadConfig :=
  { universeConfig := { exchange := .nse, symbols := ["INFY"] }
    interval := "day"
    fromDate := 0
    toDate := 1
    dataDir := "./data"
    symbols := []
    dryRun := false
    save := true
    chunkDays := 60
    replace := false }

/-- The second candle of the new day is fetched and not in the file afterwards. -/
theorem dailyDownload_loses_a_row :
    ∃ fetched merged report,
      fetchChunks plainPandas plainBroker dailyConfig 7 "INFY" [(0, 1)] = .ok fetched ∧
      downloadSymbol plainPandas plainOrder plainBroker dailyConfig 7 "INFY" [(0, 1)]
        (some (plainTable [plainCandle 0 100])) = .ok (merged, report) ∧
      ∃ row ∈ fetched.rows,
        (∀ old ∈ (plainTable [plainCandle 0 100]).rows,
          plainOrder.stamp old ≠ plainOrder.stamp row) ∧
        row ∉ merged.rows := by
  refine ⟨_, _, _, rfl, rfl, _, List.mem_cons_of_mem _ (List.mem_cons_of_mem _
    List.mem_cons_self), by decide +kernel, fun kept => ?_⟩
  have closes := @List.mem_map_of_mem _ _ _ _ (fun row => row "close") kept
  revert closes
  decide +kernel

theorem dailyDownload_mergedSafely :
    ∃ fetched merged report,
      merged.column "close" = [.number (some 100), .number (some 101)] ∧
      MergedSafely plainOrder (plainTable [plainCandle 0 100]) fetched merged ∧
      downloadSymbol plainPandas plainOrder plainBroker dailyConfig 7 "INFY" [(0, 1)]
        (some merged) = .ok (merged, report) := by
  have fetching : fetchChunks plainPandas plainBroker dailyConfig 7 "INFY" [(0, 1)] = .ok _ :=
    rfl
  refine ⟨_, _, _, ?_, downloadSymbol_mergedSafely rfl rfl (List.pairwise_singleton _ _)
    fetching rfl⟩
  decide +kernel

/-! ### The whole run -/

section Run

variable {tokens : OrderedDict String ℤ} {chunks : List Chunk}
  {progress : DownloadProgress pandas.missing} {symbol : String}

def fileAfter (pandas : Pandas C V) (order : CellOrder C K) (broker : HistoricalBroker C)
    (config : DownloadConfig) (chunks : List Chunk) (token : ℤ) (symbol : String)
    (former : Option (CandleTable pandas.missing)) : Option (CandleTable pandas.missing) :=
  match downloadSymbol pandas order broker config token symbol chunks former with
  | .error _ => former
  | .ok (merged, _) => if config.save then some merged else former

theorem fileAfter_fileAfter (token : ℤ) (former : Option (CandleTable pandas.missing)) :
    fileAfter pandas order broker config chunks token symbol
        (fileAfter pandas order broker config chunks token symbol former) =
      fileAfter pandas order broker config chunks token symbol former := by
  cases downloaded : downloadSymbol pandas order broker config token symbol chunks former with
  | error text =>
      have same : fileAfter pandas order broker config chunks token symbol former = former := by
        rw [fileAfter, downloaded]
      rw [same, same]
  | ok outcome =>
      obtain ⟨merged, report⟩ := outcome
      by_cases saving : config.save = true
      · have first : fileAfter pandas order broker config chunks token symbol former =
            some merged := by
          rw [fileAfter, downloaded]
          exact if_pos saving
        rw [first, fileAfter, downloadSymbol_again downloaded]
        exact if_pos saving
      · have same : fileAfter pandas order broker config chunks token symbol former =
            former := by
          rw [fileAfter, downloaded]
          exact if_neg saving
        rw [same, same]

theorem files_symbolStep :
    (symbolStep pandas order broker config tokens chunks progress symbol).files =
      (tokens.get? symbol).elim progress.files (fun token =>
        Function.update progress.files (config.candleFilePath symbol)
          (fileAfter pandas order broker config chunks token symbol
            (progress.files (config.candleFilePath symbol)))) := by
  unfold symbolStep fileAfter
  cases tokens.get? symbol with
  | none => rfl
  | some token =>
      dsimp only [Option.elim]
      cases downloadSymbol pandas order broker config token symbol chunks
          (progress.files (config.candleFilePath symbol)) with
      | error text => exact (Function.update_eq_self _ _).symm
      | ok outcome =>
          dsimp only
          split_ifs with saving
          · rfl
          · exact (Function.update_eq_self _ _).symm

/-- Another turn would leave the file of the symbol as it is. -/
def Settled (order : CellOrder C K) (broker : HistoricalBroker C) (config : DownloadConfig)
    (tokens : OrderedDict String ℤ) (chunks : List Chunk) (files : CandleFiles pandas.missing)
    (symbol : String) : Prop :=
  ∀ token, tokens.get? symbol = some token →
    fileAfter pandas order broker config chunks token symbol
        (files (config.candleFilePath symbol)) = files (config.candleFilePath symbol)

theorem settled_symbolStep (other : String)
    (before : other = symbol ∨ Settled order broker config tokens chunks progress.files other) :
    Settled order broker config tokens chunks
      (symbolStep pandas order broker config tokens chunks progress symbol).files other := by
  intro token found
  rw [files_symbolStep]
  by_cases same : other = symbol
  · subst same
    rw [found]
    dsimp only [Option.elim]
    rw [Function.update_self, fileAfter_fileAfter]
  · have settled := before.resolve_left same token found
    cases tokens.get? symbol with
    | none => exact settled
    | some moved =>
        dsimp only [Option.elim]
        have elsewhere : config.candleFilePath other ≠ config.candleFilePath symbol :=
          fun paths => same (congrArg CandlePath.symbol paths)
        rwa [Function.update_of_ne elsewhere]

theorem settled_run (symbols : List String) (other : String)
    (before : other ∈ symbols ∨ Settled order broker config tokens chunks progress.files other) :
    Settled order broker config tokens chunks
      (symbols.foldl (symbolStep pandas order broker config tokens chunks) progress).files
      other := by
  induction symbols generalizing progress with
  | nil => exact before.resolve_left List.not_mem_nil
  | cons symbol rest ih =>
      refine ih ?_
      rcases before with listed | settled
      · rcases List.mem_cons.mp listed with rfl | later
        · exact Or.inr (settled_symbolStep other (Or.inl rfl))
        · exact Or.inl later
      · exact Or.inr (settled_symbolStep other (Or.inr settled))

theorem files_run_of_settled (symbols : List String)
    (settled : ∀ symbol ∈ symbols,
      Settled order broker config tokens chunks progress.files symbol) :
    (symbols.foldl (symbolStep pandas order broker config tokens chunks) progress).files =
      progress.files := by
  induction symbols generalizing progress with
  | nil => rfl
  | cons symbol rest ih =>
      have unchanged : (symbolStep pandas order broker config tokens chunks progress
          symbol).files = progress.files := by
        rw [files_symbolStep]
        cases found : tokens.get? symbol with
        | none => rfl
        | some token =>
            dsimp only [Option.elim]
            rw [settled symbol List.mem_cons_self token found, Function.update_eq_self]
      rw [List.foldl_cons, ih, unchanged]
      intro other later
      rw [unchanged]
      exact settled other (List.mem_cons_of_mem _ later)

theorem runDownload_again {files after : CandleFiles pandas.missing} {result : DownloadResult}
    (ran : runDownload pandas order broker config files = .ok (result, after)) :
    ∃ again, runDownload pandas order broker config after = .ok (again, after) := by
  unfold runDownload at ran ⊢
  generalize config.chunks = boundaries at ran ⊢
  cases boundaries with
  | error raised => cases ran
  | ok chunks =>
      dsimp only at ran ⊢
      by_cases dry : config.dryRun = true
      · rw [if_pos dry] at ran ⊢
        exact ⟨_, rfl⟩
      · rw [if_neg dry] at ran ⊢
        generalize broker.getInstruments config.universeConfig.exchange.text = answer at ran ⊢
        cases answer with
        | error text => cases ran
        | ok instruments =>
            cases ran
            exact ⟨_, congrArg Except.ok (Prod.ext rfl (files_run_of_settled _
              fun symbol listed => settled_run _ symbol (Or.inl listed)))⟩

end Run

end TradingEngine.Data
