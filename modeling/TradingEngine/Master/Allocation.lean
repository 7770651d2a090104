/-
The capital allocation of the master engine.

Entry signals are ranked by strategy, thinned out so that no ticker is bought
twice or on top of an open position, cut to the number of slots that the free
cash affords, and sized with equal shares of the free cash.
-/

import Mathlib.Data.List.Sort
import TradingEngine.General.DisjointSelection
import TradingEngine.General.LotSizing
import TradingEngine.Master.DayReport

namespace TradingEngine.Master

open DisjointSelection

def totalAccountCapital : ℚ := 200000

def minChunkSize : ℚ := 30000

/-! ### Results -/

inductive RejectReason where
  | blocked
  | insufficientFreeCash
  | duplicateSymbol
  | alreadyHeld (holder : Option StrategyName)
  | invalidPrice
  | rankedOut
deriving DecidableEq

def RejectReason.text : RejectReason → String
  | .blocked => "Blocked — data fetch error (see warnings)"
  | .insufficientFreeCash => "Insufficient Free Cash"
  | .duplicateSymbol => "Duplicate symbol — already taken by higher-priority strategy"
  | .alreadyHeld holder => "Already held via " ++ holder.elim "another strategy" StrategyName.text
  | .invalidPrice => "Invalid entry price (zero or missing)"
  | .rankedOut => "Ranked out (Max slots reached)"

structure Rejection where
  strat : StrategyName
  sym : Symbol
  reason : RejectReason
deriving DecidableEq

def RawEntry.reject (reason : RejectReason) (entry : RawEntry) : Rejection :=
  { strat := entry.strat
    sym := entry.sym
    reason := reason }

structure Approval where
  strat : StrategyName
  sym : Symbol
  qty : ℕ
  entryPrice : ℚ
deriving DecidableEq

namespace Approval

def key (approval : Approval) : Key :=
  { strat := approval.strat
    sym := approval.sym }

def ledgerEntry (approval : Approval) : LedgerEntry :=
  { qty := approval.qty
    entryPrice := approval.entryPrice }

/-- `e["capital"]`. -/
def capital (approval : Approval) : ℚ :=
  approval.qty * approval.entryPrice

end Approval

structure Allocation where
  approved : List Approval
  rejected : List Rejection

/-! ### Ranking and the two rules -/

def ranked (raw : List RawEntry) : List RawEntry :=
  raw.insertionSort (fun left right => strategyScore right.strat ≤ strategyScore left.strat)

/-- Rule 1: of entries that share a ticker the first in the ranking stays. -/
def deduped (raw : List RawEntry) : List RawEntry :=
  keepDisjoint (fun entry => entry.sym.symParts) ∅ (ranked raw)

def duplicates (raw : List RawEntry) : List RawEntry :=
  dropOverlapping (fun entry => entry.sym.symParts) ∅ (ranked raw)

section Held

variable (openPositions : List OpenPosition)

/-- `held_syms`: the tickers of all open positions. -/
def heldSyms : Finset Ticker :=
  openPositions.foldr (fun position held => position.sym.symParts ∪ held) ∅

theorem disjoint_heldSyms_iff (parts : Finset Ticker) :
    Disjoint parts (heldSyms openPositions) ↔
      ∀ position ∈ openPositions, Disjoint parts position.sym.symParts := by
  induction openPositions with
  | nil => simp [heldSyms]
  | cons position rest ih =>
      have unfolded : heldSyms (position :: rest) = position.sym.symParts ∪ heldSyms rest := rfl
      rw [unfolded, Finset.disjoint_union_right, ih, List.forall_mem_cons]

/-- Rule 2: no entry in a ticker that an open position holds. -/
def filtered (raw : List RawEntry) : List RawEntry :=
  (deduped raw).filter (fun entry => Disjoint entry.sym.symParts (heldSyms openPositions))

def alreadyHeld (raw : List RawEntry) : List RawEntry :=
  (deduped raw).filter (fun entry => ¬ Disjoint entry.sym.symParts (heldSyms openPositions))

def holder (entry : RawEntry) : Option StrategyName :=
  (openPositions.find?
    (fun position => ¬ Disjoint position.sym.symParts entry.sym.symParts)).map OpenPosition.strat

end Held

/-! ### Slots and sizing -/

def maxSlots (freeCash : ℚ) : ℕ :=
  ⌊freeCash / minChunkSize⌋₊

def selected (freeCash : ℚ) (openPositions : List OpenPosition) (raw : List RawEntry) :
    List RawEntry :=
  (filtered openPositions raw).take (maxSlots freeCash)

def chunkSize (freeCash : ℚ) (openPositions : List OpenPosition) (raw : List RawEntry) : ℚ :=
  freeCash / (selected freeCash openPositions raw).length

/-- The entry price, unless it is missing, zero or negative. -/
def RawEntry.validPrice (entry : RawEntry) : Option ℚ :=
  entry.entryPrice.filter (fun price => 0 < price)

def RawEntry.approve (chunk : ℚ) (entry : RawEntry) : Option Approval :=
  entry.validPrice.map (fun price =>
    { strat := entry.strat
      sym := entry.sym
      qty := LotSizing.units chunk price
      entryPrice := price })

/-- The allocation once neither an error nor a lack of cash blocks it.  On an empty
list no step has an effect. -/
def allocateChunks (freeCash : ℚ) (openPositions : List OpenPosition) (raw : List RawEntry) :
    Allocation :=
  let chosen := selected freeCash openPositions raw
  { approved := chosen.filterMap (RawEntry.approve (chunkSize freeCash openPositions raw))
    rejected :=
      (duplicates raw).map (RawEntry.reject .duplicateSymbol) ++
        (alreadyHeld openPositions raw).map
          (fun entry => entry.reject (.alreadyHeld (holder openPositions entry))) ++
        (chosen.filter (fun entry => entry.validPrice.isNone)).map
          (RawEntry.reject .invalidPrice) ++
        ((filtered openPositions raw).drop (maxSlots freeCash)).map
          (RawEntry.reject .rankedOut) }

def allocate (fetchErrors : List FetchError) (freeCash : ℚ)
    (openPositions : List OpenPosition) (raw : List RawEntry) : Allocation :=
  if fetchErrors ≠ [] then
    { approved := [], rejected := raw.map (RawEntry.reject .blocked) }
  else if freeCash < minChunkSize then
    { approved := [], rejected := raw.map (RawEntry.reject .insufficientFreeCash) }
  else allocateChunks freeCash openPositions raw

/-! ### What the steps keep -/

theorem allocate_of_reached {fetchErrors : List FetchError} {freeCash : ℚ}
    (safe : fetchErrors = []) (funded : minChunkSize ≤ freeCash)
    (openPositions : List OpenPosition) (raw : List RawEntry) :
    allocate fetchErrors freeCash openPositions raw =
      allocateChunks freeCash openPositions raw := by
  unfold allocate
  rw [if_neg (not_not.mpr safe), if_neg (not_lt.mpr funded)]

theorem approved_of_blocked {fetchErrors : List FetchError} {freeCash : ℚ}
    (blocked : fetchErrors ≠ [] ∨ freeCash < minChunkSize)
    (openPositions : List OpenPosition) (raw : List RawEntry) :
    (allocate fetchErrors freeCash openPositions raw).approved = [] := by
  unfold allocate
  by_cases error : fetchErrors ≠ []
  · rw [if_pos error]
  · rw [if_neg error, if_pos (blocked.resolve_left error)]

theorem RawEntry.validPrice_eq_some_iff {entry : RawEntry} {price : ℚ} :
    entry.validPrice = some price ↔ entry.entryPrice = some price ∧ 0 < price := by
  unfold validPrice
  rw [Option.filter_eq_some_iff, decide_eq_true_iff]

theorem mem_ranked {raw : List RawEntry} {entry : RawEntry} :
    entry ∈ ranked raw ↔ entry ∈ raw :=
  List.mem_insertionSort _

section Steps

variable {freeCash : ℚ} {openPositions : List OpenPosition} {raw : List RawEntry}

theorem filtered_sublist : (filtered openPositions raw).Sublist (ranked raw) :=
  List.filter_sublist.trans (keepDisjoint_sublist _ _ _)

theorem selected_sublist : (selected freeCash openPositions raw).Sublist (ranked raw) :=
  (List.take_sublist _ _).trans filtered_sublist

theorem mem_raw_of_mem_selected {entry : RawEntry}
    (member : entry ∈ selected freeCash openPositions raw) : entry ∈ raw :=
  mem_ranked.mp (selected_sublist.subset member)

theorem selected_pairwise :
    (selected freeCash openPositions raw).Pairwise
      (fun left right => Disjoint left.sym.symParts right.sym.symParts) :=
  (keepDisjoint_pairwise _ _ _).sublist ((List.take_sublist _ _).trans List.filter_sublist)

theorem disjoint_open_of_mem_selected {entry : RawEntry}
    (member : entry ∈ selected freeCash openPositions raw) {position : OpenPosition}
    (isOpen : position ∈ openPositions) : Disjoint entry.sym.symParts position.sym.symParts := by
  have kept := (List.mem_filter.mp (List.mem_of_mem_take member)).2
  exact (disjoint_heldSyms_iff openPositions _).mp (of_decide_eq_true kept) position isOpen

theorem selected_keys_nodup :
    ((selected freeCash openPositions raw).map RawEntry.key).Nodup := by
  apply List.Pairwise.map _ _ selected_pairwise
  intro left right apart same
  rw [show left.sym = right.sym from congrArg Key.sym same] at apart
  exact right.sym.symParts_nonempty.ne_empty (disjoint_self.mp apart)

theorem length_selected_le : (selected freeCash openPositions raw).length ≤ maxSlots freeCash :=
  List.length_take_le _ _

theorem length_mul_minChunkSize_le (funded : minChunkSize ≤ freeCash) :
    ((selected freeCash openPositions raw).length : ℚ) * minChunkSize ≤ freeCash := by
  have positive : (0 : ℚ) < minChunkSize := by
    unfold minChunkSize
    norm_num
  have quotient : (0 : ℚ) ≤ freeCash / minChunkSize :=
    div_nonneg (le_trans (le_of_lt positive) funded) (le_of_lt positive)
  have slots : ((selected freeCash openPositions raw).length : ℚ) ≤ maxSlots freeCash :=
    Nat.cast_le.mpr length_selected_le
  exact (le_div_iff₀ positive).mp (le_trans slots (Nat.floor_le quotient))

theorem length_mul_chunkSize (some : selected freeCash openPositions raw ≠ []) :
    ((selected freeCash openPositions raw).length : ℚ) *
      chunkSize freeCash openPositions raw = freeCash := by
  have count : ((selected freeCash openPositions raw).length : ℚ) ≠ 0 :=
    Nat.cast_ne_zero.mpr (fun none => some (List.length_eq_zero_iff.mp none))
  exact mul_div_cancel₀ freeCash count

theorem minChunkSize_le_chunkSize (funded : minChunkSize ≤ freeCash)
    (some : selected freeCash openPositions raw ≠ []) :
    minChunkSize ≤ chunkSize freeCash openPositions raw := by
  have count : (0 : ℚ) < (selected freeCash openPositions raw).length :=
    Nat.cast_pos.mpr (List.length_pos_iff.mpr some)
  have fits : ((selected freeCash openPositions raw).length : ℚ) * minChunkSize ≤ freeCash :=
    length_mul_minChunkSize_le funded
  exact le_of_mul_le_mul_left (fits.trans_eq (length_mul_chunkSize some).symm) count

theorem mem_approved_iff {approval : Approval} :
    approval ∈ (allocateChunks freeCash openPositions raw).approved ↔
      ∃ entry ∈ selected freeCash openPositions raw, ∃ price, entry.validPrice = some price ∧
        approval =
          { strat := entry.strat
            sym := entry.sym
            qty := LotSizing.units (chunkSize freeCash openPositions raw) price
            entryPrice := price } := by
  change approval ∈ List.filterMap _ _ ↔ _
  rw [List.mem_filterMap]
  constructor
  · rintro ⟨entry, member, approved⟩
    obtain ⟨price, valid, rfl⟩ := Option.map_eq_some_iff.mp approved
    exact ⟨entry, member, price, valid, rfl⟩
  · rintro ⟨entry, member, price, valid, rfl⟩
    exact ⟨entry, member, Option.map_eq_some_iff.mpr ⟨price, valid, rfl⟩⟩

theorem approved_of_selected_nil (none : selected freeCash openPositions raw = []) :
    (allocateChunks freeCash openPositions raw).approved = [] := by
  change List.filterMap _ _ = _
  rw [none]
  rfl

theorem approved_keys_sublist :
    ((allocateChunks freeCash openPositions raw).approved.map Approval.key).Sublist
      ((selected freeCash openPositions raw).map RawEntry.key) := by
  change ((List.filterMap _ _).map Approval.key).Sublist _
  generalize chunkSize freeCash openPositions raw = chunk
  induction selected freeCash openPositions raw with
  | nil => exact List.Sublist.slnil
  | cons entry rest ih =>
      cases approved : entry.approve chunk with
      | none =>
          rw [List.filterMap_cons_none approved]
          exact ih.cons entry.key
      | some approval =>
          obtain ⟨price, _, rfl⟩ := Option.map_eq_some_iff.mp approved
          rw [List.filterMap_cons_some approved]
          exact ih.cons_cons entry.key

end Steps

theorem approved_keys_nodup (fetchErrors : List FetchError) (freeCash : ℚ)
    (openPositions : List OpenPosition) (raw : List RawEntry) :
    ((allocate fetchErrors freeCash openPositions raw).approved.map Approval.key).Nodup := by
  by_cases blocked : fetchErrors ≠ [] ∨ freeCash < minChunkSize
  · rw [approved_of_blocked blocked]
    exact List.nodup_nil
  · have reached := not_or.mp blocked
    rw [allocate_of_reached (not_not.mp reached.1) (not_lt.mp reached.2)]
    exact selected_keys_nodup.sublist approved_keys_sublist

end TradingEngine.Master
