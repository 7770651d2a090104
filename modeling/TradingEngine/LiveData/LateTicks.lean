/-
Late ticks.

`addTick` compares the bucket of a tick only with the open candle of its symbol, so
a tick of an earlier bucket closes the candle and opens one for a bucket whose bar
is already out.  The bars of a symbol keep their order exactly when the ticks of its
closed candles do.
-/

import TradingEngine.General.BucketRuns
import TradingEngine.LiveData.CandleCompleteness
import TradingEngine.MarketData

namespace TradingEngine.LiveData

open BucketRuns

/-! ### One symbol -/

private theorem symbolRun_open (intervalSeconds : ℕ) {own : List LiveTick} {last : LiveTick}
    (ends : own.getLast? = some last) :
    ∃ candle, (symbolRun intervalSeconds own).2 = some candle ∧
      candle.bucketStart = bucketStart last.timestamp intervalSeconds := by
  obtain ⟨before, rfl⟩ := List.getLast?_eq_some_iff.mp ends
  rw [symbolRun_append]
  refine ⟨_, rfl, ?_⟩
  unfold symbolStep
  cases (symbolRun intervalSeconds before).2 with
  | none => rfl
  | some candle =>
      dsimp only
      split_ifs with same
      · exact same.symm
      · rfl

theorem symbolRun_summaries (intervalSeconds : ℕ) (own : List LiveTick) :
    Summaries (fun tick : LiveTick => bucketStart tick.timestamp intervalSeconds)
      Domain.Bar.timestamp own (symbolRun intervalSeconds own).1 := by
  induction own using List.reverseRecOn with
  | nil => exact Summaries.nil
  | append_singleton own tick ih =>
      rcases List.eq_nil_or_concat' own with rfl | ⟨before, last, rfl⟩
      · exact Summaries.singleton tick
      · have ends : (before ++ [last]).getLast? = some last := List.getLast?_concat
        obtain ⟨candle, held, opened⟩ := symbolRun_open intervalSeconds ends
        rw [symbolRun_append, held]
        unfold symbolStep
        dsimp only
        split_ifs with same
        · rw [Option.toList_none, List.append_nil]
          exact ih.same ends (same.trans opened)
        · rw [Option.toList_some]
          exact ih.close ends (fun equal => same (equal.trans opened.symm)) opened

/-! ### All symbols -/

/-- For each symbol, at most one bar of a bucket and increasing timestamps. -/
def BarsInOrder (bars : List Domain.Bar) : Prop :=
  ∀ symbol,
    (∀ bucket,
      (bars.filter (fun bar => bar.symbol = symbol ∧ bar.timestamp = bucket)).length ≤ 1) ∧
    (bars.filter (fun bar => bar.symbol = symbol)).Pairwise
      (fun earlier later => earlier.timestamp < later.timestamp)

/-- For each symbol, the ticks before those of the open candle do not go back to an
earlier bucket. -/
def ClosedTicksInOrder (builder : CandleBuilder) (ticks : List LiveTick) : Prop :=
  ∀ symbol,
    (closedItems builder.bucketOf (ticks.filter (fun tick => tick.key = symbol))).Pairwise
      (fun earlier later => builder.bucketOf earlier ≤ builder.bucketOf later)

private theorem length_bucket_le_one {bars : List Domain.Bar} {symbol : String}
    (increasing : (bars.filter (fun bar => bar.symbol = symbol)).Pairwise
      (fun earlier later => earlier.timestamp < later.timestamp)) (bucket : Datetime) :
    (bars.filter (fun bar => bar.symbol = symbol ∧ bar.timestamp = bucket)).length ≤ 1 := by
  have nested : bars.filter (fun bar => bar.symbol = symbol ∧ bar.timestamp = bucket) =
      (bars.filter (fun bar => bar.symbol = symbol)).filter
        (fun bar => bar.timestamp = bucket) := by
    rw [List.filter_filter]
    apply List.filter_congr
    intro bar _member
    rw [Bool.decide_and, Bool.and_comm]
  rw [nested]
  have ordered := increasing.filter (fun bar => bar.timestamp = bucket)
  have inBucket : ∀ bar ∈ (bars.filter (fun bar => bar.symbol = symbol)).filter
      (fun bar => bar.timestamp = bucket), bar.timestamp = bucket := by
    intro bar member
    exact of_decide_eq_true (List.mem_filter.mp member).2
  generalize (bars.filter (fun bar => bar.symbol = symbol)).filter
    (fun bar => bar.timestamp = bucket) = inOne at ordered inBucket
  cases inOne with
  | nil => exact Nat.zero_le 1
  | cons first others =>
      cases others with
      | nil => exact Nat.le_refl 1
      | cons second rest =>
          have before := List.rel_of_pairwise_cons ordered List.mem_cons_self
          have firstIn := inBucket first List.mem_cons_self
          have secondIn := inBucket second (List.mem_cons_of_mem first List.mem_cons_self)
          exact absurd (firstIn.trans secondIn.symm) (ne_of_lt before)

theorem barsInOrder_iff {builder : CandleBuilder}
    (fresh : builder.openCandles = OrderedDict.empty) (ticks : List LiveTick) :
    BarsInOrder (builder.addTicks ticks).1 ↔ ClosedTicksInOrder builder ticks := by
  have isNew : builder = CandleBuilder.new builder.intervalSeconds builder.interval_pos := by
    cases builder
    cases fresh
    rfl
  obtain ⟨_keyed, _interval, runs⟩ :=
    CandleBuilder.addTicks_symbolRun builder.intervalSeconds builder.interval_pos ticks
  rw [← isNew] at runs
  have ownBars : ∀ symbol,
      ((builder.addTicks ticks).1.filter (fun bar => bar.symbol = symbol)).Pairwise
          (fun earlier later => earlier.timestamp < later.timestamp) ↔
        (closedItems builder.bucketOf (ticks.filter (fun tick => tick.key = symbol))).Pairwise
          (fun earlier later => builder.bucketOf earlier ≤ builder.bucketOf later) := by
    intro symbol
    have own := congrArg Prod.fst (runs symbol)
    dsimp only at own
    rw [own]
    exact (symbolRun_summaries builder.intervalSeconds _).increasing_iff
  constructor
  · intro inOrder symbol
    exact (ownBars symbol).mp (inOrder symbol).2
  · intro ticksInOrder symbol
    have increasing := (ownBars symbol).mpr (ticksInOrder symbol)
    exact ⟨length_bucket_le_one increasing, increasing⟩

theorem openCandles_flush (builder : CandleBuilder) :
    builder.flush.2.openCandles = OrderedDict.empty := rfl

/-! ### A tick of the bucket before -/

/-- Two minutes of ticks, with one of the first minute received in the second. -/
def lateTicks : List LiveTick :=
  [sampleTick "INFY" 1 100 hundred_pos, sampleTick "INFY" 61 100 hundred_pos,
    sampleTick "INFY" 31 100 hundred_pos, sampleTick "INFY" 62 100 hundred_pos]

theorem lateTicks_barsInOrder_iff :
    BarsInOrder ((CandleBuilder.new 60 (by decide)).addTicks lateTicks).1 ↔
      ClosedTicksInOrder (CandleBuilder.new 60 (by decide)) lateTicks :=
  barsInOrder_iff rfl lateTicks

theorem lateTicks_not_barsInOrder :
    ¬ BarsInOrder ((CandleBuilder.new 60 (by decide)).addTicks lateTicks).1 := by
  intro inOrder
  have once := (inOrder "INFY").1 0
  revert once
  decide

end TradingEngine.LiveData
