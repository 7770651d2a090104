/-
What a duplicate symbol gave way to.

The deduplication runs before the rule on held tickers, so an entry can give way to
one that is rejected itself.  Each duplicate has a surviving rival exactly when the
scan in which only entries free of held tickers take their tickers keeps disjoint
entries.
-/

import TradingEngine.General.FilteredSelection
import TradingEngine.Master.Allocation

namespace TradingEngine.Master

open DisjointSelection

variable (fetchErrors : List FetchError) (freeCash : ℚ) (openPositions : List OpenPosition)
  (raw : List RawEntry)

/-- Every duplicate shares a ticker with an entry of at least its priority that passes
both rules. -/
def DuplicatesHaveRivals : Prop :=
  ∀ rejection ∈ (allocate fetchErrors freeCash openPositions raw).rejected,
    rejection.reason = .duplicateSymbol →
      ∃ rival ∈ filtered openPositions raw,
        strategyScore rejection.strat ≤ strategyScore rival.strat ∧
        ¬ Disjoint rejection.sym.symParts rival.sym.symParts

/-- No entry is looked at. -/
def EntriesBlocked : Prop :=
  fetchErrors ≠ [] ∨ freeCash < minChunkSize

/-- The same with a rival that comes first in the ranking. -/
def DuplicatesHaveEarlierRivals : Prop :=
  EntriesBlocked fetchErrors freeCash ∨
    DroppedForSurvivors (fun entry => entry.sym.symParts) (heldSyms openPositions) (ranked raw)

/-- Of the entries that share no ticker with an earlier one free of held tickers, no two
share a ticker. -/
def HeldEntriesBlockNone : Prop :=
  EntriesBlocked fetchErrors freeCash ∨
    (keepBesideClear (fun entry => entry.sym.symParts) (heldSyms openPositions)
      (ranked raw)).Pairwise (fun left right => Disjoint left.sym.symParts right.sym.symParts)

/-- Entries that share a ticker differ in priority. -/
def PrioritiesDecide : Prop :=
  (ranked raw).Pairwise (fun left right =>
    ¬ Disjoint left.sym.symParts right.sym.symParts →
      strategyScore left.strat ≠ strategyScore right.strat)

variable {fetchErrors : List FetchError} {freeCash : ℚ} {openPositions : List OpenPosition}
  {raw : List RawEntry}

theorem ranked_pairwise (raw : List RawEntry) :
    (ranked raw).Pairwise
      (fun left right => strategyScore right.strat ≤ strategyScore left.strat) := by
  have total : Std.Total
      (fun left right : RawEntry => strategyScore right.strat ≤ strategyScore left.strat) :=
    ⟨fun left right => Nat.le_total (strategyScore right.strat) (strategyScore left.strat)⟩
  have trans : IsTrans RawEntry
      (fun left right => strategyScore right.strat ≤ strategyScore left.strat) :=
    ⟨fun _ _ _ second first => Nat.le_trans first second⟩
  exact List.pairwise_insertionSort _ raw

theorem mem_rejected_duplicateSymbol_iff {rejection : Rejection}
    (duplicate : rejection.reason = .duplicateSymbol) :
    rejection ∈ (allocate fetchErrors freeCash openPositions raw).rejected ↔
      ¬ EntriesBlocked fetchErrors freeCash ∧
        ∃ entry ∈ duplicates raw, entry.reject .duplicateSymbol = rejection := by
  have others : ∀ (reason : RawEntry → RejectReason) (entries : List RawEntry),
      (∀ entry, reason entry ≠ .duplicateSymbol) →
        rejection ∉ entries.map (fun entry => entry.reject (reason entry)) := by
    intro reason entries differs member
    obtain ⟨entry, _present, rfl⟩ := List.mem_map.mp member
    exact differs entry duplicate
  unfold allocate EntriesBlocked
  by_cases failed : fetchErrors ≠ []
  · rw [if_pos failed]
    constructor
    · intro member
      exact absurd member (others (fun _entry => .blocked) raw nofun)
    · intro found
      exact absurd (Or.inl failed) found.1
  · rw [if_neg failed]
    by_cases poor : freeCash < minChunkSize
    · rw [if_pos poor]
      constructor
      · intro member
        exact absurd member (others (fun _entry => .insufficientFreeCash) raw nofun)
      · intro found
        exact absurd (Or.inr poor) found.1
    · rw [if_neg poor]
      have held := others (fun entry => .alreadyHeld (holder openPositions entry))
        (alreadyHeld openPositions raw) nofun
      have invalid := others (fun _entry => .invalidPrice)
        ((selected freeCash openPositions raw).filter (fun entry => entry.validPrice.isNone)) nofun
      have out := others (fun _entry => .rankedOut)
        ((filtered openPositions raw).drop (maxSlots freeCash)) nofun
      unfold allocateChunks
      dsimp only
      rw [List.mem_append, List.mem_append, List.mem_append, List.mem_map]
      constructor
      · intro member
        refine ⟨not_or.mpr ⟨failed, poor⟩, ?_⟩
        exact ((member.resolve_right out).resolve_right invalid).resolve_right held
      · intro found
        exact Or.inl (Or.inl (Or.inl found.2))

theorem DuplicatesHaveEarlierRivals.duplicatesHaveRivals
    (earlier : DuplicatesHaveEarlierRivals fetchErrors freeCash openPositions raw) :
    DuplicatesHaveRivals fetchErrors freeCash openPositions raw := by
  intro rejection member duplicate
  obtain ⟨reached, entry, dropped, rfl⟩ :=
    (mem_rejected_duplicateSymbol_iff duplicate).mp member
  obtain ⟨before, after, split, blocked⟩ := (mem_dropOverlapping_iff _).mp dropped
  obtain ⟨rival, survives, overlap⟩ :=
    earlier.resolve_left reached before entry after split blocked
  obtain ⟨kept, clear⟩ := List.mem_filter.mp survives
  refine ⟨rival, ?_, ?_, overlap⟩
  · unfold filtered deduped
    rw [split]
    exact List.mem_filter.mpr ⟨(keepDisjoint_isPrefix _ _ _).subset kept, clear⟩
  · have sorted := ranked_pairwise raw
    rw [split] at sorted
    have inBefore := (keepDisjoint_sublist _ _ _).subset kept
    exact (List.pairwise_append.mp sorted).2.2 rival inBefore entry List.mem_cons_self

theorem DuplicatesHaveRivals.earlier (decided : PrioritiesDecide raw)
    (rivals : DuplicatesHaveRivals fetchErrors freeCash openPositions raw) :
    DuplicatesHaveEarlierRivals fetchErrors freeCash openPositions raw := by
  by_cases reached : EntriesBlocked fetchErrors freeCash
  · exact Or.inl reached
  · right
    intro before entry after split blocked
    have dropped : entry ∈ duplicates raw :=
      (mem_dropOverlapping_iff _).mpr ⟨before, after, split, blocked⟩
    obtain ⟨rival, survives, atLeast, overlap⟩ := rivals (entry.reject .duplicateSymbol)
      ((mem_rejected_duplicateSymbol_iff rfl).mpr ⟨reached, entry, dropped, rfl⟩) rfl
    obtain ⟨kept, clear⟩ := List.mem_filter.mp survives
    refine ⟨rival, List.mem_filter.mpr ⟨?_, clear⟩, overlap⟩
    unfold deduped at kept
    rw [split, keepDisjoint_append_of_overlap _ blocked] at kept
    apply (mem_of_mem_keepDisjoint_append _ kept).resolve_right
    intro inAfter
    have sorted := ranked_pairwise raw
    unfold PrioritiesDecide at decided
    rw [split] at sorted decided
    have notAbove := (List.pairwise_cons.mp (List.pairwise_append.mp sorted).2.1).1 rival inAfter
    have differs :=
      (List.pairwise_cons.mp (List.pairwise_append.mp decided).2.1).1 rival inAfter overlap
    exact differs (Nat.le_antisymm atLeast notAbove)

/-- Duplicates have surviving rivals if held entries block none; with rivals that come
first, or where priorities decide, only if. -/
theorem duplicatesHaveRivals_iff (fetchErrors : List FetchError) (freeCash : ℚ)
    (openPositions : List OpenPosition) (raw : List RawEntry) :
    (HeldEntriesBlockNone fetchErrors freeCash openPositions raw →
      DuplicatesHaveRivals fetchErrors freeCash openPositions raw) ∧
    (DuplicatesHaveEarlierRivals fetchErrors freeCash openPositions raw ↔
      HeldEntriesBlockNone fetchErrors freeCash openPositions raw) ∧
    (PrioritiesDecide raw →
      (DuplicatesHaveRivals fetchErrors freeCash openPositions raw ↔
        HeldEntriesBlockNone fetchErrors freeCash openPositions raw)) := by
  have exact_condition : DuplicatesHaveEarlierRivals fetchErrors freeCash openPositions raw ↔
      HeldEntriesBlockNone fetchErrors freeCash openPositions raw :=
    or_congr_right (droppedForSurvivors_iff _ (heldSyms openPositions) (ranked raw))
  refine ⟨?_, exact_condition, ?_⟩
  · intro condition
    exact (exact_condition.mpr condition).duplicatesHaveRivals
  · intro decided
    constructor
    · intro rivals
      exact exact_condition.mp (rivals.earlier decided)
    · intro condition
      exact (exact_condition.mpr condition).duplicatesHaveRivals

/-! ### Two pairs with a bank in common -/

def pairEntry (symA symB : Ticker) : RawEntry :=
  { strat := .blackSwan
    sym := Symbol.pair symA symB
    entryPrice := some 100
    qty := 100 }

def heldBank : OpenPosition :=
  { strat := .supertrend
    sym := Symbol.single "ICICIBANK"
    entryPrice := 100
    qty := 100
    entryDate := paperTradingStart
    mark := 100
    unrealizedPnl := 0 }

def pullbackEntry (ticker : Ticker) : RawEntry :=
  { strat := .maPullback
    sym := Symbol.single ticker
    entryPrice := some 100
    qty := 100 }

/-- The entries of two strategies on one bank, with nothing held. -/
theorem bankEntries_rivals_iff :
    DuplicatesHaveRivals [] totalAccountCapital []
        [pairEntry "ICICIBANK" "AXISBANK", pullbackEntry "AXISBANK"] ↔
      HeldEntriesBlockNone [] totalAccountCapital []
        [pairEntry "ICICIBANK" "AXISBANK", pullbackEntry "AXISBANK"] :=
  (duplicatesHaveRivals_iff [] totalAccountCapital []
    [pairEntry "ICICIBANK" "AXISBANK", pullbackEntry "AXISBANK"]).2.2
      (by unfold PrioritiesDecide; decide +kernel)

/-- The pair on the held bank is rejected, and so is the pair that shares the other
bank with it. -/
theorem pairEntries_not_duplicatesHaveRivals :
    ¬ DuplicatesHaveRivals [] totalAccountCapital [heldBank]
      [pairEntry "ICICIBANK" "AXISBANK", pairEntry "AXISBANK" "KOTAKBANK"] := by
  intro rivals
  have rejected : (pairEntry "AXISBANK" "KOTAKBANK").reject .duplicateSymbol ∈
      (allocate [] totalAccountCapital [heldBank]
        [pairEntry "ICICIBANK" "AXISBANK", pairEntry "AXISBANK" "KOTAKBANK"]).rejected := by
    decide +kernel
  have nobody : filtered [heldBank]
      [pairEntry "ICICIBANK" "AXISBANK", pairEntry "AXISBANK" "KOTAKBANK"] = [] := by
    decide +kernel
  obtain ⟨rival, survives, _⟩ := rivals _ rejected rfl
  rw [nobody] at survives
  cases survives

end TradingEngine.Master
