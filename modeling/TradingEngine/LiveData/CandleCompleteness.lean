/-
The bars of a symbol are its ticks, grouped by bucket.

A symbol sees only its own ticks, so its bars do not depend on how the stream is
interleaved.  For timestamps that do not decrease, there is one bar for each bucket
with ticks, in increasing order.
-/

import Mathlib.Data.List.Induction
import Mathlib.Order.Bounds.Defs
import Mathlib.Tactic.Positivity
import TradingEngine.General.BucketSeries
import TradingEngine.LiveData.CandleBuilder

namespace TradingEngine.LiveData

open BucketSeries

/-! ### One symbol -/

/-- What a tick does to the candle of its symbol: the bar it completes and the open
candle. -/
def symbolStep (intervalSeconds : ℕ) (existing : Option OpenCandle) (tick : LiveTick) :
    Option Domain.Bar × OpenCandle :=
  let bucket := bucketStart tick.timestamp intervalSeconds
  match existing with
  | none => (none, newCandle tick.key bucket tick)
  | some candle =>
      if bucket = candle.bucketStart then (none, candle.update tick)
      else (some candle.toBar, newCandle tick.key bucket tick)

def symbolRun (intervalSeconds : ℕ) (own : List LiveTick) :
    List Domain.Bar × Option OpenCandle :=
  own.foldl
    (fun seen tick =>
      (seen.1 ++ (symbolStep intervalSeconds seen.2 tick).1.toList,
        some (symbolStep intervalSeconds seen.2 tick).2))
    ([], none)

theorem symbolRun_append (intervalSeconds : ℕ) (own : List LiveTick) (tick : LiveTick) :
    symbolRun intervalSeconds (own ++ [tick]) =
      ((symbolRun intervalSeconds own).1 ++
          (symbolStep intervalSeconds (symbolRun intervalSeconds own).2 tick).1.toList,
        some (symbolStep intervalSeconds (symbolRun intervalSeconds own).2 tick).2) := by
  unfold symbolRun
  rw [List.foldl_append]
  rfl

namespace CandleBuilder

variable {builder : CandleBuilder}

theorem addTick_eq (builder : CandleBuilder) (tick : LiveTick) :
    builder.addTick tick =
      ((symbolStep builder.intervalSeconds (builder.openCandles.get? tick.key) tick).1,
        builder.setCandle tick.key
          (symbolStep builder.intervalSeconds (builder.openCandles.get? tick.key) tick).2) := by
  unfold addTick symbolStep bucketOf
  dsimp only
  cases builder.openCandles.get? tick.key with
  | none => rfl
  | some existing =>
      dsimp only
      split_ifs with same
      · rfl
      · rfl

theorem addTicks_append (builder : CandleBuilder) (ticks : List LiveTick) (tick : LiveTick) :
    builder.addTicks (ticks ++ [tick]) =
      ((builder.addTicks ticks).1 ++ ((builder.addTicks ticks).2.addTick tick).1.toList,
        ((builder.addTicks ticks).2.addTick tick).2) := by
  induction ticks generalizing builder with
  | nil => simp [addTicks]
  | cons first rest ih => simp [addTicks, ih, List.append_assoc]

/-- Every open candle is stored under its own symbol. -/
def WellKeyed (builder : CandleBuilder) : Prop :=
  ∀ key candle, builder.openCandles.get? key = some candle → candle.symbol = key

theorem symbol_symbolStep (intervalSeconds : ℕ) {existing : Option OpenCandle} {tick : LiveTick}
    (keyed : ∀ candle, existing = some candle → candle.symbol = tick.key) :
    (symbolStep intervalSeconds existing tick).2.symbol = tick.key ∧
      ∀ bar, (symbolStep intervalSeconds existing tick).1 = some bar → bar.symbol = tick.key := by
  unfold symbolStep
  cases existing with
  | none => exact ⟨rfl, nofun⟩
  | some candle =>
      have symbol := keyed candle rfl
      dsimp only
      split_ifs with same
      · exact ⟨symbol, nofun⟩
      · refine ⟨rfl, ?_⟩
        intro bar closed
        cases closed
        exact symbol

theorem WellKeyed.addTick (keyed : WellKeyed builder) (tick : LiveTick) :
    WellKeyed (builder.addTick tick).2 := by
  intro key candle held
  rw [addTick_eq] at held
  change (builder.openCandles.insert _ _).get? key = some candle at held
  rw [OrderedDict.get?_insert] at held
  split_ifs at held with same
  · cases held
    rw [same]
    exact (symbol_symbolStep _ (keyed tick.key)).1
  · exact keyed key candle held

theorem addTicks_symbolRun (intervalSeconds : ℕ) (interval_pos : 0 < intervalSeconds)
    (ticks : List LiveTick) :
    WellKeyed ((new intervalSeconds interval_pos).addTicks ticks).2 ∧
      ((new intervalSeconds interval_pos).addTicks ticks).2.intervalSeconds = intervalSeconds ∧
      ∀ symbol,
        (((new intervalSeconds interval_pos).addTicks ticks).1.filter
            (fun bar => bar.symbol = symbol),
          ((new intervalSeconds interval_pos).addTicks ticks).2.openCandles.get? symbol) =
        symbolRun intervalSeconds (ticks.filter (fun tick => tick.key = symbol)) := by
  induction ticks using List.reverseRecOn with
  | nil => exact ⟨nofun, rfl, fun _symbol => rfl⟩
  | append_singleton ticks tick ih =>
      obtain ⟨keyed, interval, runs⟩ := ih
      rw [addTicks_append]
      refine ⟨keyed.addTick tick, ?_, ?_⟩
      · rw [addTick_eq]
        exact interval
      · intro symbol
        have before := runs symbol
        have barSymbol := (symbol_symbolStep intervalSeconds (keyed tick.key)).2
        rw [List.filter_append, List.filter_append, addTick_eq, interval]
        change (_, (OrderedDict.insert _ _ _).get? symbol) = _
        rw [OrderedDict.get?_insert, List.filter_singleton]
        by_cases own : tick.key = symbol
        · subst own
          rw [decide_eq_true rfl, cond_true, symbolRun_append, ← before, if_pos rfl]
          congr 2
          cases closed : (symbolStep intervalSeconds _ tick).1 with
          | none => rfl
          | some bar =>
              rw [Option.toList_some, List.filter_singleton, decide_eq_true (barSymbol bar closed),
                cond_true]
        · rw [decide_eq_false own, cond_false, List.append_nil, if_neg (Ne.symm own), ← before]
          cases closed : (symbolStep intervalSeconds _ tick).1 with
          | none => simp
          | some bar =>
              have other : ¬ bar.symbol = symbol := barSymbol bar closed ▸ own
              simp [other]

theorem barsFor_eq (intervalSeconds : ℕ) (interval_pos : 0 < intervalSeconds)
    (ticks : List LiveTick) (symbol : String) :
    (new intervalSeconds interval_pos).barsFor ticks symbol =
      (symbolRun intervalSeconds (ticks.filter (fun tick => tick.key = symbol))).1 ++
        ((symbolRun intervalSeconds (ticks.filter (fun tick => tick.key = symbol))).2.map
          OpenCandle.toBar).toList := by
  obtain ⟨keyed, _, runs⟩ := addTicks_symbolRun intervalSeconds interval_pos ticks
  rw [← runs symbol]
  unfold barsFor flush
  dsimp only
  generalize (new intervalSeconds interval_pos).addTicks ticks = added at keyed
  have flushed : ((added.2.openCandles.entries.map (fun entry => entry.2.toBar)).filter
      (fun bar => bar.symbol = symbol)) =
        ((added.2.openCandles.get? symbol).map OpenCandle.toBar).toList := by
    have byKey : added.2.openCandles.entries.filter
        (fun entry => decide (entry.2.toBar.symbol = symbol)) =
          added.2.openCandles.entries.filter (fun entry => decide (entry.1 = symbol)) := by
      apply List.filter_congr
      intro entry member
      have stored := keyed entry.1 entry.2 (OrderedDict.get?_eq_some_iff.mpr member)
      change decide (entry.2.symbol = symbol) = _
      rw [stored]
    rw [List.filter_map]
    change List.map _ (List.filter
      (fun entry : String × OpenCandle => decide (entry.2.toBar.symbol = symbol)) _) = _
    rw [byKey, OrderedDict.filter_key_eq]
    cases added.2.openCandles.get? symbol <;> rfl
  rw [List.filter_append, flushed]

end CandleBuilder

/-! ### One bar for each bucket -/

/-- What a bar says about the ticks of its bucket. -/
structure Describes (ticks : List LiveTick) (bar : Domain.Bar) : Prop where
  openFirst : ticks.head?.map LiveTick.lastPrice = some bar.openPrice
  closeLast : ticks.getLast?.map LiveTick.lastPrice = some bar.close
  high : IsGreatest { price | ∃ tick ∈ ticks, tick.lastPrice = price } bar.high
  low : IsLeast { price | ∃ tick ∈ ticks, tick.lastPrice = price } bar.low
  volume : bar.volume = (ticks.map (fun tick => tick.volume.getD 0)).sum

theorem describes_newCandle (symbol : String) (bucket : Datetime) (tick : LiveTick) :
    Describes [tick] (newCandle symbol bucket tick).toBar := by
  constructor
  · rfl
  · rfl
  · constructor
    · exact ⟨tick, List.mem_cons_self, rfl⟩
    · rintro price ⟨seen, member, rfl⟩
      rw [List.mem_singleton.mp member]
      exact le_refl _
  · constructor
    · exact ⟨tick, List.mem_cons_self, rfl⟩
    · rintro price ⟨seen, member, rfl⟩
      rw [List.mem_singleton.mp member]
      exact le_refl _
  · rfl

theorem describes_update {seen : List LiveTick} {candle : OpenCandle}
    (described : Describes seen candle.toBar) (tick : LiveTick) :
    Describes (seen ++ [tick]) (candle.update tick).toBar := by
  obtain ⟨openFirst, _, ⟨highMember, highBound⟩, ⟨lowMember, lowBound⟩, volume⟩ := described
  have nonempty : seen ≠ [] := by
    rintro rfl
    cases openFirst
  constructor
  · rw [List.head?_append_of_ne_nil seen nonempty]
    exact openFirst
  · rw [List.getLast?_append_of_ne_nil seen (List.cons_ne_nil tick [])]
    rfl
  · change IsGreatest _ (if candle.high < tick.lastPrice then tick.lastPrice else candle.high)
    split_ifs with higher
    · refine ⟨⟨tick, List.mem_append_right _ List.mem_cons_self, rfl⟩, ?_⟩
      rintro price ⟨found, member, rfl⟩
      rcases List.mem_append.mp member with earlier | last
      · exact le_trans (highBound ⟨found, earlier, rfl⟩) (le_of_lt higher)
      · rw [List.mem_singleton.mp last]
    · obtain ⟨highest, earlierMember, same⟩ := highMember
      refine ⟨⟨highest, List.mem_append_left _ earlierMember, same⟩, ?_⟩
      rintro price ⟨found, member, rfl⟩
      rcases List.mem_append.mp member with earlier | last
      · exact highBound ⟨found, earlier, rfl⟩
      · rw [List.mem_singleton.mp last]
        exact not_lt.mp higher
  · change IsLeast _ (if tick.lastPrice < candle.low then tick.lastPrice else candle.low)
    split_ifs with lower
    · refine ⟨⟨tick, List.mem_append_right _ List.mem_cons_self, rfl⟩, ?_⟩
      rintro price ⟨found, member, rfl⟩
      rcases List.mem_append.mp member with earlier | last
      · exact le_trans (le_of_lt lower) (lowBound ⟨found, earlier, rfl⟩)
      · rw [List.mem_singleton.mp last]
    · obtain ⟨lowest, earlierMember, same⟩ := lowMember
      refine ⟨⟨lowest, List.mem_append_left _ earlierMember, same⟩, ?_⟩
      rintro price ⟨found, member, rfl⟩
      rcases List.mem_append.mp member with earlier | last
      · exact lowBound ⟨found, earlier, rfl⟩
      · rw [List.mem_singleton.mp last]
        exact not_lt.mp lower
  · change candle.volume + tick.volume.getD 0 = _
    rw [List.map_append, List.sum_append, ← volume, List.map_singleton, List.sum_singleton]
    rfl

theorem bucketStart_mono {intervalSeconds : ℕ} (interval_pos : 0 < intervalSeconds)
    {earlier later : Datetime} (ordered : earlier ≤ later) :
    bucketStart earlier intervalSeconds ≤ bucketStart later intervalSeconds := by
  have width : (0 : ℤ) < 1000000 * intervalSeconds := by positivity
  exact mul_le_mul_of_nonneg_right (Int.ediv_le_ediv width ordered) (le_of_lt width)

/-- The completed bars and the open candle cover the ticks seen so far. -/
theorem symbolRun_covers {intervalSeconds : ℕ} (interval_pos : 0 < intervalSeconds)
    (own : List LiveTick)
    (ordered : own.Pairwise (fun earlier later => earlier.timestamp ≤ later.timestamp)) :
    Covers (fun tick => bucketStart tick.timestamp intervalSeconds) Domain.Bar.timestamp
        Describes own
        ((symbolRun intervalSeconds own).1 ++
          ((symbolRun intervalSeconds own).2.map OpenCandle.toBar).toList) ∧
      ((symbolRun intervalSeconds own).2 = none → own = []) := by
  induction own using List.reverseRecOn with
  | nil => exact ⟨Covers.nil, fun _none => rfl⟩
  | append_singleton own tick ih =>
      obtain ⟨orderedBefore, _, after⟩ := List.pairwise_append.mp ordered
      obtain ⟨covers, started⟩ := ih orderedBefore
      refine ⟨?_, ?_⟩
      · rw [symbolRun_append]
        cases held : (symbolRun intervalSeconds own).2 with
        | none =>
            rw [held, Option.map_none, Option.toList_none, List.append_nil] at covers
            refine Covers.append (by simpa [symbolStep] using covers) ?_ rfl
              (describes_newCandle _ _ tick)
            rw [started held]
            exact nofun
        | some candle =>
            rw [held] at covers
            unfold symbolStep
            dsimp only
            split_ifs with same
            · rw [Option.toList_none, List.append_nil]
              exact covers.renew same rfl (fun seen described => describes_update described tick)
            · refine Covers.append covers ?_ rfl (describes_newCandle _ _ tick)
              intro seen member
              have before := covers.le_last seen member
              have reached : candle.bucketStart ≤
                  bucketStart tick.timestamp intervalSeconds := by
                obtain ⟨found, present, stamped⟩ := (covers.stamps candle.bucketStart).mp
                  ⟨candle.toBar, List.mem_append_right _ List.mem_cons_self, rfl⟩
                rw [← stamped]
                exact bucketStart_mono interval_pos (after found present tick List.mem_cons_self)
              exact lt_of_le_of_lt before (lt_of_le_of_ne reached (Ne.symm same))
      · intro missing
        rw [symbolRun_append] at missing
        cases missing

/-- The bars of a symbol cover its ticks, and the other symbols do not touch them. -/
theorem candles_complete (intervalSeconds : ℕ) (interval_pos : 0 < intervalSeconds)
    (ticks : List LiveTick) (symbol : String)
    (ordered : (ticks.filter (fun tick => tick.key = symbol)).Pairwise
      (fun earlier later => earlier.timestamp ≤ later.timestamp)) :
    Covers (CandleBuilder.new intervalSeconds interval_pos).bucketOf Domain.Bar.timestamp Describes
        (ticks.filter (fun tick => tick.key = symbol))
        ((CandleBuilder.new intervalSeconds interval_pos).barsFor ticks symbol) ∧
      (CandleBuilder.new intervalSeconds interval_pos).barsFor ticks symbol =
        (CandleBuilder.new intervalSeconds interval_pos).barsFor
          (ticks.filter (fun tick => tick.key = symbol)) symbol := by
  constructor
  · rw [CandleBuilder.barsFor_eq]
    exact (symbolRun_covers interval_pos _ ordered).1
  · rw [CandleBuilder.barsFor_eq, CandleBuilder.barsFor_eq, List.filter_filter]
    simp only [Bool.and_self]

/-! ### Two symbols, interleaved -/

def sampleTick (symbol : String) (second : ℤ) (price : ℚ) (positive : 0 < price) : LiveTick :=
  { instrumentToken := 1
    symbol := some symbol
    timestamp := 1000000 * second
    lastPrice := price
    volume := none
    instrumentToken_pos := Nat.one_pos
    lastPrice_pos := positive }

def interleavedTicks : List LiveTick :=
  [sampleTick "INFY" 1 5 (by norm_num), sampleTick "TCS" 2 7 (by norm_num),
    sampleTick "INFY" 59 3 (by norm_num), sampleTick "INFY" 61 4 (by norm_num)]

theorem interleavedTicks_complete :
    Covers (CandleBuilder.new 60 (by decide)).bucketOf Domain.Bar.timestamp Describes
      (interleavedTicks.filter (fun tick => tick.key = "INFY"))
      ((CandleBuilder.new 60 (by decide)).barsFor interleavedTicks "INFY") := by
  have ordered : (interleavedTicks.filter (fun tick => tick.key = "INFY")).Pairwise
      (fun earlier later => earlier.timestamp ≤ later.timestamp) := by
    decide
  exact (candles_complete 60 (by decide) interleavedTicks "INFY" ordered).1

end TradingEngine.LiveData
