/-
The allocator of the master engine against the one of the ten-year simulation.

Both rank the signals alike and size the chosen ones alike.  They differ in what
counts as taken: the simulation compares whole symbols, the master engine the
tickers inside them.  They approve the same entries exactly when the symbols that
the simulation funds share no ticker with one another or with a holding.
-/

import TradingEngine.Backtest.TenYearSimulation
import TradingEngine.Master.Allocation

namespace TradingEngine.TenYearSimulation

open DisjointSelection
open Master (StrategyName RawEntry OpenPosition Approval)

/-! ### The same day in both programs -/

def SimTrade.rawEntry (trade : SimTrade) : RawEntry :=
  { strat := trade.strategy
    sym := trade.symbol
    entryPrice := some trade.entryPrice
    qty := 1 }

def ActiveTrade.openPosition (active : ActiveTrade) : OpenPosition :=
  { strat := active.trade.strategy
    sym := active.trade.symbol
    entryPrice := active.trade.entryPrice
    qty := active.actualQty
    entryDate := active.trade.entryDate
    mark := active.trade.entryPrice
    unrealizedPnl := 0 }

def approvalOf (approval : Approval) : StrategyName × Symbol × ℕ :=
  (approval.strat, approval.sym, approval.qty)

def openingOf (active : ActiveTrade) : StrategyName × Symbol × ℕ :=
  (active.trade.strategy, active.trade.symbol, active.actualQty)

section Day

variable (freeCash : ℚ) (active : List ActiveTrade) (signals : List SimTrade)

def masterApproved : List Approval :=
  (Master.allocate [] freeCash (active.map ActiveTrade.openPosition)
    (signals.map SimTrade.rawEntry)).approved

def SameApprovals : Prop :=
  ∀ bought, bought ∈ (masterApproved freeCash active signals).map approvalOf ↔
    bought ∈ (opened active signals freeCash).map openingOf

/-- The signals that the simulation funds share no ticker, neither with one another nor
with a holding. -/
def TickersApart : Prop :=
  (selected active signals freeCash).Pairwise
      (fun left right => Disjoint left.symbol.symParts right.symbol.symParts) ∧
    ∀ trade ∈ selected active signals freeCash, ∀ held ∈ active,
      Disjoint trade.symbol.symParts held.trade.symbol.symParts

def masterSelected : List SimTrade :=
  (fineScan SimTrade.symbol Symbol.symParts
    (Master.heldSyms (active.map ActiveTrade.openPosition)) ∅ (ranked signals)).take
      (maxSlots freeCash)

variable {freeCash active signals}

theorem ranked_map_rawEntry :
    Master.ranked (signals.map SimTrade.rawEntry) = (ranked signals).map SimTrade.rawEntry := by
  have sameScore : ∀ strategy, Master.strategyScore strategy = stratScore strategy := by
    intro strategy
    cases strategy <;> rfl
  symm
  apply List.map_insertionSort
  intro left _ right _
  change _ ↔ Master.strategyScore right.strategy ≤ Master.strategyScore left.strategy
  rw [sameScore, sameScore]

theorem selected_map_rawEntry :
    Master.selected freeCash (active.map ActiveTrade.openPosition)
        (signals.map SimTrade.rawEntry) =
      (masterSelected freeCash active signals).map SimTrade.rawEntry := by
  unfold Master.selected Master.filtered Master.deduped masterSelected fineScan
  rw [ranked_map_rawEntry, keepDisjoint_map, List.filter_map, List.map_take]
  rfl

theorem masterApproved_eq (funded : ¬ freeCash < minChunkSize) :
    (masterApproved freeCash active signals).map approvalOf =
      (masterSelected freeCash active signals).map (fun trade =>
        (trade.strategy, trade.symbol,
          LotSizing.units (freeCash / (masterSelected freeCash active signals).length)
            trade.entryPrice)) := by
  have valid : ∀ trade : SimTrade, trade.rawEntry.validPrice = some trade.entryPrice :=
    fun trade => Master.RawEntry.validPrice_eq_some_iff.mpr ⟨rfl, trade.entryPrice_pos⟩
  unfold masterApproved
  rw [Master.allocate_of_reached rfl (not_lt.mp funded)]
  change (List.filterMap _ _).map approvalOf = _
  unfold Master.chunkSize
  rw [selected_map_rawEntry, List.length_map, List.filterMap_map, List.map_filterMap]
  rw [← List.filterMap_eq_map]
  apply List.filterMap_congr
  intro trade _
  simp only [Function.comp_apply, RawEntry.approve, valid, Option.map_some]
  rfl

theorem opened_eq (funded : ¬ freeCash < minChunkSize) :
    (opened active signals freeCash).map openingOf =
      (selected active signals freeCash).map (fun trade =>
        (trade.strategy, trade.symbol,
          LotSizing.units (freeCash / (selected active signals freeCash).length)
            trade.entryPrice)) := by
  unfold opened
  rw [if_neg funded, List.map_map]
  rfl

/-! ### The two selections -/

theorem mem_heldSymbols {symbol : Symbol} :
    symbol ∈ heldSymbols active ↔ ∃ held ∈ active, held.trade.symbol = symbol := by
  unfold heldSymbols
  rw [List.mem_toFinset, List.mem_map]

theorem disjoint_heldSyms_iff {parts : Finset Ticker} :
    Disjoint parts (Master.heldSyms (active.map ActiveTrade.openPosition)) ↔
      ∀ held ∈ active, Disjoint parts held.trade.symbol.symParts := by
  rw [Master.disjoint_heldSyms_iff, List.forall_mem_map]
  rfl

theorem symParts_subset_heldSyms {symbol : Symbol} (held : symbol ∈ heldSymbols active) :
    symbol.symParts ⊆ Master.heldSyms (active.map ActiveTrade.openPosition) := by
  obtain ⟨trade, member, rfl⟩ := mem_heldSymbols.mp held
  intro ticker inside
  by_contra outside
  have apart : Disjoint {ticker} (Master.heldSyms (active.map ActiveTrade.openPosition)) :=
    Finset.disjoint_singleton_left.mpr outside
  have clear := disjoint_heldSyms_iff.mp apart trade member
  exact Finset.disjoint_singleton_left.mp clear inside

theorem masterSelected_sublist_deduped :
    (masterSelected freeCash active signals).Sublist (deduped active signals) := by
  refine (List.take_sublist _ _).trans ?_
  apply fineScan_sublist_coarseScan _ _ _ Symbol.symParts_nonempty
  intro symbol held
  left
  intro apart
  have empty := disjoint_self.mp (apart.mono_right (symParts_subset_heldSyms held))
  exact symbol.symParts_nonempty.ne_empty empty

theorem deduped_inj {left right : SimTrade} (leftMember : left ∈ deduped active signals)
    (rightMember : right ∈ deduped active signals) (same : left.symbol = right.symbol) :
    left = right :=
  List.inj_on_of_nodup_map (coarseScan_names_nodup _ _ _) leftMember rightMember same

theorem masterSelected_eq_selected (funded : ¬ freeCash < minChunkSize)
    (same : SameApprovals freeCash active signals) :
    masterSelected freeCash active signals = selected active signals freeCash := by
  unfold SameApprovals at same
  rw [masterApproved_eq funded, opened_eq funded] at same
  have selectedSublist : (selected active signals freeCash).Sublist (deduped active signals) :=
    List.take_sublist _ _
  apply sublist_eq_of_mem_iff (List.Nodup.of_map _ (coarseScan_names_nodup _ _ _))
    masterSelected_sublist_deduped selectedSublist
  intro trade
  constructor
  · intro member
    obtain ⟨other, chosen, equal⟩ := List.mem_map.mp
      ((same _).mp (List.mem_map_of_mem member))
    have sameSymbol : other.symbol = trade.symbol := congrArg (fun bought => bought.2.1) equal
    rw [← deduped_inj (selectedSublist.subset chosen)
      (masterSelected_sublist_deduped.subset member) sameSymbol]
    exact chosen
  · intro member
    obtain ⟨other, chosen, equal⟩ := List.mem_map.mp
      ((same _).mpr (List.mem_map_of_mem member))
    have sameSymbol : other.symbol = trade.symbol := congrArg (fun bought => bought.2.1) equal
    rw [← deduped_inj (masterSelected_sublist_deduped.subset chosen)
      (selectedSublist.subset member) sameSymbol]
    exact chosen

theorem masterSelected_apart :
    (masterSelected freeCash active signals).Pairwise
        (fun left right => Disjoint left.symbol.symParts right.symbol.symParts) ∧
      ∀ trade ∈ masterSelected freeCash active signals, ∀ held ∈ active,
        Disjoint trade.symbol.symParts held.trade.symbol.symParts := by
  constructor
  · exact (keepDisjoint_pairwise _ _ _).sublist ((List.take_sublist _ _).trans List.filter_sublist)
  · intro trade member
    have kept := (List.mem_filter.mp (List.mem_of_mem_take member)).2
    exact disjoint_heldSyms_iff.mp (of_decide_eq_true kept)

theorem masterSelected_eq_of_tickersApart (apart : TickersApart freeCash active signals) :
    masterSelected freeCash active signals = selected active signals freeCash := by
  apply fineScan_take_eq_of_clear _ _ _ Symbol.symParts_nonempty _ _ ∅
  · exact fun _symbol held => Or.inl (symParts_subset_heldSyms held)
  · exact Finset.empty_subset _
  · intro trade member
    rw [Finset.union_empty]
    exact disjoint_heldSyms_iff.mpr (apart.2 trade member)
  · exact apart.1

end Day

/-- Both allocators approve the same entries exactly when the cash does not reach one
slot or the simulation's choices share no ticker. -/
theorem sameApprovals_iff (freeCash : ℚ) (active : List ActiveTrade)
    (signals : List SimTrade) :
    SameApprovals freeCash active signals ↔
      freeCash < minChunkSize ∨ TickersApart freeCash active signals := by
  by_cases short : freeCash < minChunkSize
  · have noApproval : masterApproved freeCash active signals = [] :=
      Master.approved_of_blocked (Or.inr short) _ _
    have noOpening : opened active signals freeCash = [] := if_pos short
    refine iff_of_true ?_ (Or.inl short)
    intro bought
    rw [noApproval, noOpening]
    rfl
  · constructor
    · intro same
      right
      rw [TickersApart, ← masterSelected_eq_selected short same]
      exact masterSelected_apart
    · intro condition
      have sameSelection := masterSelected_eq_of_tickersApart (condition.resolve_left short)
      unfold SameApprovals
      rw [masterApproved_eq short, opened_eq short, sameSelection]
      exact fun _ => Iff.rfl

/-- A single stock and a pair with that stock in it, both signalled on one day. -/
def stockAndPair : List SimTrade :=
  [{ strategy := .maPullback, symbol := Symbol.single "AXISBANK", entryDate := 0, exitDate := 1
     entryPrice := 100, exitPrice := 100, entryPrice_pos := hundred_pos },
    { strategy := .blackSwan, symbol := Symbol.pair "ICICIBANK" "AXISBANK", entryDate := 0
      exitDate := 1, entryPrice := 100, exitPrice := 100, entryPrice_pos := hundred_pos }]

theorem stockAndPair_not_sameApprovals :
    ¬ ∀ freeCash active signals, SameApprovals freeCash active signals := by
  intro same
  have boughtHalf : (.maPullback, Symbol.single "AXISBANK", 1000) ∈
      (opened [] stockAndPair 200000).map openingOf := by decide +kernel
  have notBoughtHalf : (.maPullback, Symbol.single "AXISBANK", 1000) ∉
      (masterApproved 200000 [] stockAndPair).map approvalOf := by decide +kernel
  exact notBoughtHalf ((same 200000 [] stockAndPair _).mpr boughtHalf)

end TradingEngine.TenYearSimulation
