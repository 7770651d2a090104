/-
The volume of a bar.

A tick carries the volume traded so far on its day, and a candle adds these totals
up.  A bar then shows the volume traded in its bucket only where no total before the
last one counts.
-/

import Mathlib.Algebra.BigOperators.Group.List.Basic
import Mathlib.Algebra.Order.BigOperators.Group.List
import TradingEngine.LiveData.CandleCompleteness
import TradingEngine.MarketData

namespace TradingEngine.LiveData

def LiveTick.dayVolume (tick : LiveTick) : ℕ :=
  tick.volume.getD 0

def volumeAfter (ticks : List LiveTick) : ℕ :=
  (ticks.getLast?.map LiveTick.dayVolume).getD 0

@[simp] theorem volumeAfter_nil : volumeAfter [] = 0 := rfl

@[simp] theorem volumeAfter_append (ticks : List LiveTick) (tick : LiveTick) :
    volumeAfter (ticks ++ [tick]) = tick.dayVolume := by
  unfold volumeAfter
  rw [List.getLast?_concat]
  rfl

/-- Each bar of the symbol shows what its bucket adds to the volume of the day, and
together they show that volume. -/
def BarsShowTradedVolume (builder : CandleBuilder) (ticks : List LiveTick) (symbol : String) :
    Prop :=
  let own := ticks.filter (fun tick => tick.key = symbol)
  (∀ bar ∈ builder.barsFor ticks symbol,
    volumeAfter (own.filter (fun tick => builder.bucketOf tick < bar.timestamp)) + bar.volume =
      volumeAfter (own.filter (fun tick => builder.bucketOf tick = bar.timestamp))) ∧
  ((builder.barsFor ticks symbol).map Domain.Bar.volume).sum = volumeAfter own

/-! ### What the candles add up -/

theorem symbolRun_volume (intervalSeconds : ℕ) (own : List LiveTick) :
    (((symbolRun intervalSeconds own).1 ++
        ((symbolRun intervalSeconds own).2.map OpenCandle.toBar).toList).map
          Domain.Bar.volume).sum = (own.map LiveTick.dayVolume).sum := by
  induction own using List.reverseRecOn with
  | nil => rfl
  | append_singleton own tick ih =>
      rw [symbolRun_append, @List.map_append _ _ LiveTick.dayVolume own, List.sum_append, ← ih]
      unfold symbolStep
      cases (symbolRun intervalSeconds own).2 with
      | none => simp [newCandle, OpenCandle.toBar, LiveTick.dayVolume]
      | some candle =>
          dsimp only
          split_ifs with same
          · simp [OpenCandle.update, OpenCandle.toBar, LiveTick.dayVolume, Nat.add_assoc]
          · simp [newCandle, OpenCandle.toBar, LiveTick.dayVolume, Nat.add_assoc]

private theorem volumeAfter_eq_zero {ticks : List LiveTick}
    (zero : ∀ tick ∈ ticks, tick.dayVolume = 0) : volumeAfter ticks = 0 := by
  rcases List.eq_nil_or_concat' ticks with rfl | ⟨before, last, rfl⟩
  · rfl
  · rw [volumeAfter_append]
    exact zero last (List.mem_append_right _ List.mem_cons_self)

private theorem sum_dayVolume_eq_zero {ticks : List LiveTick}
    (zero : ∀ tick ∈ ticks, tick.dayVolume = 0) : (ticks.map LiveTick.dayVolume).sum = 0 := by
  rw [List.sum_eq_zero_iff]
  intro volume member
  obtain ⟨tick, present, rfl⟩ := List.mem_map.mp member
  exact zero tick present

def OnlyLastCounts (own : List LiveTick) : Prop :=
  ∀ tick ∈ own.dropLast, tick.dayVolume = 0

theorem sum_eq_volumeAfter_iff (own : List LiveTick) :
    (own.map LiveTick.dayVolume).sum = volumeAfter own ↔ OnlyLastCounts own := by
  rcases List.eq_nil_or_concat' own with rfl | ⟨before, last, rfl⟩
  · exact ⟨fun _sum => nofun, fun _zero => rfl⟩
  · unfold OnlyLastCounts
    rw [volumeAfter_append, List.dropLast_concat, List.map_append, List.sum_append,
      List.map_singleton, List.sum_singleton]
    constructor
    · intro total tick member
      have nothing : (before.map LiveTick.dayVolume).sum = 0 := by omega
      have each := List.sum_eq_zero_iff.mp nothing
      exact each tick.dayVolume (List.mem_map_of_mem member)
    · intro zero
      rw [sum_dayVolume_eq_zero zero, Nat.zero_add]

theorem OnlyLastCounts.filter {own : List LiveTick} (onlyLast : OnlyLastCounts own)
    (kept : LiveTick → Bool) : OnlyLastCounts (own.filter kept) := by
  rcases List.eq_nil_or_concat' own with rfl | ⟨before, last, rfl⟩
  · exact nofun
  · unfold OnlyLastCounts at onlyLast
    rw [List.dropLast_concat] at onlyLast
    have earlier : ∀ tick ∈ before.filter kept, tick.dayVolume = 0 := by
      intro tick member
      exact onlyLast tick (List.mem_filter.mp member).1
    intro tick member
    rw [List.filter_append, List.filter_singleton] at member
    cases last_kept : kept last with
    | true =>
        rw [last_kept, cond_true, List.dropLast_concat] at member
        exact earlier tick member
    | false =>
        rw [last_kept, cond_false, List.append_nil] at member
        exact earlier tick (List.mem_of_mem_dropLast member)

theorem volumeAfter_before_bucket {own : List LiveTick} {bucketOf : LiveTick → Datetime}
    {bucket : Datetime} (onlyLast : OnlyLastCounts own)
    (ordered : own.Pairwise (fun earlier later => bucketOf earlier ≤ bucketOf later))
    (occurs : ∃ tick ∈ own, bucketOf tick = bucket) :
    volumeAfter (own.filter (fun tick => bucketOf tick < bucket)) = 0 := by
  apply volumeAfter_eq_zero
  intro tick member
  obtain ⟨present, earlier⟩ := List.mem_filter.mp member
  rcases List.eq_nil_or_concat' own with rfl | ⟨before, last, rfl⟩
  · cases present
  · unfold OnlyLastCounts at onlyLast
    rw [List.dropLast_concat] at onlyLast
    rcases List.mem_append.mp present with inBefore | atEnd
    · exact onlyLast tick inBefore
    · exfalso
      rw [List.mem_singleton.mp atEnd] at earlier
      obtain ⟨found, foundMember, same⟩ := occurs
      have reached : bucketOf found ≤ bucketOf last := by
        rcases List.mem_append.mp foundMember with inBefore | found_last
        · exact (List.pairwise_append.mp ordered).2.2 found inBefore last List.mem_cons_self
        · rw [List.mem_singleton.mp found_last]
      rw [same] at reached
      exact absurd (of_decide_eq_true earlier) (not_lt.mpr reached)

/-! ### All symbols -/

/-- The bars show the traded volume only where every volume before the last one is
zero, whether or not the volumes grow. -/
theorem barsShowTradedVolume_iff (intervalSeconds : ℕ) (interval_pos : 0 < intervalSeconds)
    (ticks : List LiveTick) (symbol : String)
    (ordered : (ticks.filter (fun tick => tick.key = symbol)).Pairwise
      (fun earlier later => earlier.timestamp ≤ later.timestamp)) :
    BarsShowTradedVolume (CandleBuilder.new intervalSeconds interval_pos) ticks symbol ↔
      OnlyLastCounts (ticks.filter (fun tick => tick.key = symbol)) := by
  have covers := (candles_complete intervalSeconds interval_pos ticks symbol ordered).1
  have total : (((CandleBuilder.new intervalSeconds interval_pos).barsFor ticks symbol).map
      Domain.Bar.volume).sum =
        ((ticks.filter (fun tick => tick.key = symbol)).map LiveTick.dayVolume).sum := by
    rw [CandleBuilder.barsFor_eq]
    exact symbolRun_volume intervalSeconds _
  constructor
  · intro shown
    exact (sum_eq_volumeAfter_iff _).mp (total.symm.trans shown.2)
  · intro onlyLast
    refine ⟨?_, total.trans ((sum_eq_volumeAfter_iff _).mpr onlyLast)⟩
    intro bar member
    have buckets : (ticks.filter (fun tick => tick.key = symbol)).Pairwise
        (fun earlier later =>
          (CandleBuilder.new intervalSeconds interval_pos).bucketOf earlier ≤
            (CandleBuilder.new intervalSeconds interval_pos).bucketOf later) :=
      ordered.imp (fun earlier => bucketStart_mono interval_pos earlier)
    have occurs := (covers.stamps bar.timestamp).mp ⟨bar, member, rfl⟩
    rw [volumeAfter_before_bucket onlyLast buckets occurs, Nat.zero_add,
      (covers.describes bar member).volume]
    exact (sum_eq_volumeAfter_iff _).mpr (onlyLast.filter _)

/-! ### Two ticks of one minute -/

/-- 100 shares were traded by the first tick and 150 by the second. -/
def cumulativeTicks : List LiveTick :=
  [{ sampleTick "INFY" 1 100 hundred_pos with volume := some 100 },
    { sampleTick "INFY" 2 100 hundred_pos with volume := some 150 }]

theorem cumulativeTicks_shown_iff :
    BarsShowTradedVolume (CandleBuilder.new 60 (by decide)) cumulativeTicks "INFY" ↔
      OnlyLastCounts (cumulativeTicks.filter (fun tick => tick.key = "INFY")) :=
  barsShowTradedVolume_iff 60 (by decide) cumulativeTicks "INFY" (by decide)

/-- The bar shows 250 of the 150 shares traded. -/
theorem cumulativeTicks_not_shown :
    cumulativeTicks.Pairwise (fun earlier later =>
        earlier.key = later.key ∧ earlier.timestamp ≤ later.timestamp ∧
          earlier.dayVolume ≤ later.dayVolume) ∧
      ((CandleBuilder.new 60 (by decide)).barsFor cumulativeTicks "INFY").map
        Domain.Bar.volume = [250] ∧
      ¬ BarsShowTradedVolume (CandleBuilder.new 60 (by decide)) cumulativeTicks "INFY" := by
  refine ⟨by decide, by decide, ?_⟩
  intro shown
  have total := shown.2
  revert total
  decide

end TradingEngine.LiveData
