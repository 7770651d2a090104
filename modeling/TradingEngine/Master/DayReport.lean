/-
What the strategies report to the master engine on one day.

Every strategy contributes to three lists: positions held since before today,
exits of today and entry signals of today.  The lists are concatenated in the
order in which the strategies are run.
-/

import TradingEngine.Master.Ledger
import TradingEngine.Scripts.PaperTrader

namespace TradingEngine.Master

/-- A tuple of `fetch_errors`. -/
structure FetchError where
  strategy : StrategyName
  label : String
  message : String
deriving DecidableEq

/-- A tuple of `open_positions`.  The mark is the last close, or the current price of
a pair. -/
structure OpenPosition where
  strat : StrategyName
  sym : Symbol
  entryPrice : ℚ
  qty : ℕ
  entryDate : Date
  mark : ℚ
  unrealizedPnl : ℚ
deriving DecidableEq

namespace OpenPosition

def key (position : OpenPosition) : Key :=
  { strat := position.strat
    sym := position.sym }

def cost (position : OpenPosition) : ℚ :=
  position.entryPrice * position.qty

end OpenPosition

/-- A tuple of `raw_new_entries`. -/
structure RawEntry where
  strat : StrategyName
  sym : Symbol
  entryPrice : Option ℚ
  qty : ℕ
deriving DecidableEq

def RawEntry.key (entry : RawEntry) : Key :=
  { strat := entry.strat
    sym := entry.sym }

structure DayReport where
  openPositions : List OpenPosition
  newExits : List ExitReport
  rawNewEntries : List RawEntry
  fetchErrors : List FetchError

structure StrategyOutputs where
  swanResults : List (Except String (PaperTrader.PairReport ℚ))
  bbStates : List (Symbol × ReplayResult ℚ)
  maStates : List (Symbol × ReplayResult ℚ)
  stStates : List (Symbol × ReplayResult ℚ)
  fetchErrors : List FetchError

/-! ### One pair -/

section Pair

open PaperTrader (PairReport HeldReport)

def pairExits (r : PairReport ℚ) : List ExitReport :=
  r.todayClosed.map (fun trade => { strat := .blackSwan, sym := r.pair, trade := trade })

/-- A pair entered today is a new entry, not an open position. -/
def pairOpen (r : PairReport ℚ) : List OpenPosition :=
  match r.position with
  | none => []
  | some held =>
      if held.entryDate = r.todayDate then []
      else
        [{ strat := .blackSwan
           sym := r.pair
           entryPrice := held.entryPrice
           qty := held.entryQty
           entryDate := held.entryDate
           mark := held.currentPrice
           unrealizedPnl := held.unrealizedPnl }]

def pairEntries (r : PairReport ℚ) : List RawEntry :=
  match r.position with
  | none => []
  | some held =>
      if held.entryDate = r.todayDate then
        [{ strat := .blackSwan
           sym := r.pair
           entryPrice := some held.entryPrice
           qty := held.entryQty }]
      else []

end Pair

/-! ### One symbol -/

section State

variable (strat : StrategyName) (state : Symbol × ReplayResult ℚ)

def stateExits : List ExitReport :=
  state.2.todayClosed.map (fun trade => { strat := strat, sym := state.1, trade := trade })

/-- A position whose signal is today's is a new entry, not an open position. -/
def stateOpen : List OpenPosition :=
  match state.2.position, state.2.todayEntry with
  | some held, none =>
      [{ strat := strat
         sym := state.1
         entryPrice := held.entryPrice
         qty := held.qty
         entryDate := held.entryDate
         mark := state.2.lastClose
         unrealizedPnl := state.2.unrealizedPnl }]
  | _, _ => []

def stateEntries : List RawEntry :=
  match state.2.todayEntry with
  | none => []
  | some entry =>
      [{ strat := strat, sym := state.1, entryPrice := entry.entryPrice, qty := entry.qty }]

end State

/-! ### Aggregation -/

namespace StrategyOutputs

variable (outputs : StrategyOutputs)

def pairs : List (PaperTrader.PairReport ℚ) :=
  outputs.swanResults.filterMap Except.toOption

def pairErrors : List FetchError :=
  outputs.swanResults.filterMap (fun result =>
    match result with
    | .ok _ => none
    | .error message => some { strategy := .blackSwan, label := "?", message := message })

/-- One of the three lists: first the pairs, then BB Squeeze, MA Pullback and
Supertrend. -/
def collect {α : Type} (ofPair : PaperTrader.PairReport ℚ → List α)
    (ofState : StrategyName → Symbol × ReplayResult ℚ → List α) : List α :=
  outputs.pairs.flatMap ofPair ++
    (outputs.bbStates.flatMap (ofState .bbSqueeze) ++
      (outputs.maStates.flatMap (ofState .maPullback) ++
        outputs.stStates.flatMap (ofState .supertrend)))

def report : DayReport :=
  { openPositions := outputs.collect pairOpen stateOpen
    newExits := outputs.collect pairExits stateExits
    rawNewEntries := outputs.collect pairEntries stateEntries
    fetchErrors := outputs.fetchErrors ++ outputs.pairErrors }

end StrategyOutputs

/-! ### Keys of the lists -/

section Keys

variable {r : PaperTrader.PairReport ℚ} {strat : StrategyName}
  {state : Symbol × ReplayResult ℚ}

theorem pairExits_ne_nil_iff : pairExits r ≠ [] ↔ r.todayClosed ≠ [] :=
  not_congr List.map_eq_nil_iff

theorem pairOpen_ne_nil_iff :
    pairOpen r ≠ [] ↔ r.position ≠ none ∧ r.isNewToday = false := by
  unfold pairOpen PaperTrader.PairReport.isNewToday
  cases r.position with
  | none => simp
  | some held =>
      by_cases new : held.entryDate = r.todayDate <;> simp [new]

theorem pairEntries_ne_nil_iff : pairEntries r ≠ [] ↔ r.isNewToday = true := by
  unfold pairEntries PaperTrader.PairReport.isNewToday
  cases r.position with
  | none => simp
  | some held =>
      by_cases new : held.entryDate = r.todayDate <;> simp [new]

theorem stateExits_ne_nil_iff : stateExits strat state ≠ [] ↔ state.2.todayClosed ≠ [] :=
  not_congr List.map_eq_nil_iff

theorem stateOpen_ne_nil_iff :
    stateOpen strat state ≠ [] ↔ state.2.position ≠ none ∧ state.2.todayEntry = none := by
  unfold stateOpen
  cases state.2.position <;> cases state.2.todayEntry <;> simp

theorem stateEntries_ne_nil_iff :
    stateEntries strat state ≠ [] ↔ state.2.todayEntry ≠ none := by
  unfold stateEntries
  cases state.2.todayEntry <;> simp

end Keys

namespace StrategyOutputs

variable (outputs : StrategyOutputs)

def statesOf : StrategyName → List (Symbol × ReplayResult ℚ)
  | .blackSwan => []
  | .bbSqueeze => outputs.bbStates
  | .maPullback => outputs.maStates
  | .supertrend => outputs.stStates

theorem mem_collect_iff {α : Type} {ofPair : PaperTrader.PairReport ℚ → List α}
    {ofState : StrategyName → Symbol × ReplayResult ℚ → List α} {item : α} :
    item ∈ outputs.collect ofPair ofState ↔
      (∃ r ∈ outputs.pairs, item ∈ ofPair r) ∨
        ∃ strat, ∃ state ∈ outputs.statesOf strat, item ∈ ofState strat state := by
  simp only [collect, List.mem_append, List.mem_flatMap]
  constructor
  · rintro (pair | bb | ma | st)
    · exact Or.inl pair
    · exact Or.inr ⟨.bbSqueeze, bb⟩
    · exact Or.inr ⟨.maPullback, ma⟩
    · exact Or.inr ⟨.supertrend, st⟩
  · rintro (pair | ⟨strat, state, member, listed⟩)
    · exact Or.inl pair
    · cases strat with
      | blackSwan => contradiction
      | bbSqueeze => exact Or.inr (Or.inl ⟨state, member, listed⟩)
      | maPullback => exact Or.inr (Or.inr (Or.inl ⟨state, member, listed⟩))
      | supertrend => exact Or.inr (Or.inr (Or.inr ⟨state, member, listed⟩))

theorem mem_collect_keys_iff {α : Type} {ofPair : PaperTrader.PairReport ℚ → List α}
    {ofState : StrategyName → Symbol × ReplayResult ℚ → List α} {keyOf : α → Key}
    (pairKey : ∀ r, ∀ item ∈ ofPair r, keyOf item = { strat := .blackSwan, sym := r.pair })
    (stateKey : ∀ strat state, ∀ item ∈ ofState strat state,
      keyOf item = { strat := strat, sym := state.1 }) {key : Key} :
    key ∈ (outputs.collect ofPair ofState).map keyOf ↔
      (key.strat = .blackSwan ∧ ∃ r ∈ outputs.pairs, r.pair = key.sym ∧ ofPair r ≠ []) ∨
        ∃ state ∈ outputs.statesOf key.strat, state.1 = key.sym ∧
          ofState key.strat state ≠ [] := by
  rw [List.mem_map]
  constructor
  · rintro ⟨item, member, rfl⟩
    rcases outputs.mem_collect_iff.mp member with
      ⟨r, reported, listed⟩ | ⟨strat, state, reported, listed⟩
    · rw [pairKey r item listed]
      exact Or.inl ⟨rfl, r, reported, rfl, List.ne_nil_of_mem listed⟩
    · rw [stateKey strat state item listed]
      exact Or.inr ⟨state, reported, rfl, List.ne_nil_of_mem listed⟩
  · rintro (⟨isPair, r, reported, symEq, listed⟩ | ⟨state, reported, symEq, listed⟩)
    · obtain ⟨item, member⟩ := List.exists_mem_of_ne_nil _ listed
      refine ⟨item, outputs.mem_collect_iff.mpr (Or.inl ⟨r, reported, member⟩), ?_⟩
      rw [pairKey r item member, symEq, ← isPair]
    · obtain ⟨item, member⟩ := List.exists_mem_of_ne_nil _ listed
      refine ⟨item, outputs.mem_collect_iff.mpr
        (Or.inr ⟨key.strat, state, reported, member⟩), ?_⟩
      rw [stateKey key.strat state item member, symEq]

end StrategyOutputs

section ReportKeys

variable {outputs : StrategyOutputs} {key : Key}

theorem mem_newExits_keys_iff :
    key ∈ outputs.report.newExits.map ExitReport.key ↔
      (key.strat = .blackSwan ∧ ∃ r ∈ outputs.pairs, r.pair = key.sym ∧ pairExits r ≠ []) ∨
        ∃ state ∈ outputs.statesOf key.strat, state.1 = key.sym ∧
          stateExits key.strat state ≠ [] := by
  apply outputs.mem_collect_keys_iff
  · intro r item listed
    obtain ⟨_, _, rfl⟩ := List.mem_map.mp listed
    rfl
  · intro strat state item listed
    obtain ⟨_, _, rfl⟩ := List.mem_map.mp listed
    rfl

theorem mem_openPositions_keys_iff :
    key ∈ outputs.report.openPositions.map OpenPosition.key ↔
      (key.strat = .blackSwan ∧ ∃ r ∈ outputs.pairs, r.pair = key.sym ∧ pairOpen r ≠ []) ∨
        ∃ state ∈ outputs.statesOf key.strat, state.1 = key.sym ∧
          stateOpen key.strat state ≠ [] := by
  apply outputs.mem_collect_keys_iff
  · intro r item listed
    unfold pairOpen at listed
    split at listed
    · contradiction
    · split at listed
      · contradiction
      · rw [List.mem_singleton.mp listed]
        rfl
  · intro strat state item listed
    unfold stateOpen at listed
    split at listed
    · rw [List.mem_singleton.mp listed]
      rfl
    · contradiction

theorem mem_rawNewEntries_keys_iff :
    key ∈ outputs.report.rawNewEntries.map RawEntry.key ↔
      (key.strat = .blackSwan ∧ ∃ r ∈ outputs.pairs, r.pair = key.sym ∧ pairEntries r ≠ []) ∨
        ∃ state ∈ outputs.statesOf key.strat, state.1 = key.sym ∧
          stateEntries key.strat state ≠ [] := by
  apply outputs.mem_collect_keys_iff
  · intro r item listed
    unfold pairEntries at listed
    split at listed
    · contradiction
    · split at listed
      · rw [List.mem_singleton.mp listed]
        rfl
      · contradiction
  · intro strat state item listed
    unfold stateEntries at listed
    split at listed
    · contradiction
    · rw [List.mem_singleton.mp listed]
      rfl

end ReportKeys

/-! ### Reports of one event

Replays in which nothing happened but a signal, or an exit, on the last day.
-/

def idleState : ReplayResult ℚ :=
  { position := none
    lastClose := 0
    unrealizedPnl := 0
    daysHeld := 0
    daysLeft := 0
    realizedPnl := 0
    totalTrades := 0
    wins := 0
    losses := 0
    winRate := 0
    closedTrades := []
    todayClosed := []
    todayEntry := none
    todayDate := paperTradingStart }

def signalState (price : ℚ) : ReplayResult ℚ :=
  { idleState with
    todayEntry := some
      { entryPrice := some price
        qty := 1
        stopLoss := 0
        target := none
        capital := price } }

def openState (entryDate : Date) (entryPrice : ℚ) (qty : ℕ) : ReplayResult ℚ :=
  { idleState with
    position := some
      { entryPrice := entryPrice
        entryDate := entryDate
        qty := qty
        stopPrice := 0
        targetPrice := none } }

def exitState (exitPrice : ℚ) : ReplayResult ℚ :=
  { idleState with
    todayClosed :=
      [{ entryDate := paperTradingStart
         exitDate := paperTradingStart
         entryPrice := 0
         exitPrice := exitPrice
         qty := 1
         pnl := 0
         reason := ExitReason.stopLoss.text }] }

def stateOutputs (maStates stStates : List (Symbol × ReplayResult ℚ)) : StrategyOutputs :=
  { swanResults := []
    bbStates := []
    maStates := maStates
    stStates := stStates
    fetchErrors := [] }

end TradingEngine.Master
