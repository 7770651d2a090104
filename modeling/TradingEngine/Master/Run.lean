/-
One run of the master engine.

The run filters the reported positions, applies the exits to the ledger, corrects
what is still open by the ledger, lists the ledger's positions that nobody
reported, and allocates what is left of the account to the new entries.
-/

import TradingEngine.Master.Allocation

namespace TradingEngine.Master

open DecimalRounding

/-! ### Open positions -/

/-- A position is kept if the master engine approved it, or if it is older than the
paper start. -/
def OpenPosition.isKept (ledger : Ledger) (position : OpenPosition) : Bool :=
  position.key ∈ ledger.positions.keys || position.entryDate < paperTradingStart

def OpenPosition.corrected (ledger : Ledger) (position : OpenPosition) : OpenPosition :=
  match ledger.positions.get? position.key with
  | none => position
  | some entry =>
      let lastC := if position.mark = 0 then entry.entryPrice else position.mark
      { position with
        qty := entry.qty
        entryPrice := entry.entryPrice
        unrealizedPnl := roundTo 2 ((lastC - entry.entryPrice) * entry.qty) }

@[simp] theorem OpenPosition.corrected_key (ledger : Ledger) (position : OpenPosition) :
    (position.corrected ledger).key = position.key := by
  unfold corrected
  split <;> rfl

theorem OpenPosition.corrected_cost (ledger : Ledger) (position : OpenPosition) :
    (position.corrected ledger).cost =
      ledger.positions.weightAt (fun _key entry => entry.cost) position.key +
        if position.key ∈ ledger.positions.keys then 0 else position.cost := by
  unfold corrected OrderedDict.weightAt
  cases found : ledger.positions.get? position.key with
  | none =>
      rw [if_neg (OrderedDict.get?_eq_none_iff.mp found), Option.elim_none, zero_add]
  | some entry =>
      have held : position.key ∈ ledger.positions.keys :=
        OrderedDict.mem_keys_of_mem (OrderedDict.get?_eq_some_iff.mp found)
      rw [if_pos held, Option.elim_some, add_zero]
      exact mul_comm entry.entryPrice (entry.qty : ℚ)

/-! ### A run -/

structure RunResult where
  newExits : List ExitReport
  openPositions : List OpenPosition
  orphans : List (Key × LedgerEntry)
  totalLocked : ℚ
  freeCash : ℚ
  approved : List Approval
  rejected : List Rejection
  ledger : Ledger

def Ledger.approveAll (ledger : Ledger) (approved : List Approval) : Ledger :=
  { ledger with
    positions := approved.foldl
      (fun positions approval => positions.insert approval.key approval.ledgerEntry)
      ledger.positions }

namespace Ledger

def approveOne (ledger : Ledger) (approval : Approval) : Ledger :=
  { ledger with positions := ledger.positions.insert approval.key approval.ledgerEntry }

theorem approveAll_cons (ledger : Ledger) (approval : Approval) (rest : List Approval) :
    ledger.approveAll (approval :: rest) = (ledger.approveOne approval).approveAll rest :=
  rfl

theorem mem_approveAll_iff (ledger : Ledger) {approved : List Approval}
    (distinct : (approved.map Approval.key).Nodup) {key : Key} {entry : LedgerEntry} :
    (key, entry) ∈ (ledger.approveAll approved).positions.entries ↔
      (∃ approval ∈ approved, approval.key = key ∧ approval.ledgerEntry = entry) ∨
        (key ∉ approved.map Approval.key ∧ (key, entry) ∈ ledger.positions.entries) := by
  induction approved generalizing ledger with
  | nil => simp [approveAll]
  | cons approval rest ih =>
      rw [List.map_cons, List.nodup_cons] at distinct
      obtain ⟨fresh, distinct⟩ := distinct
      rw [approveAll_cons, ih _ distinct, List.exists_mem_cons_iff, List.map_cons, approveOne,
        OrderedDict.mem_insert_iff, List.mem_cons, not_or]
      constructor
      · rintro (later | ⟨unnamed, ⟨rfl, rfl⟩ | ⟨other, old⟩⟩)
        · exact Or.inl (Or.inr later)
        · exact Or.inl (Or.inl ⟨rfl, rfl⟩)
        · exact Or.inr ⟨⟨other, unnamed⟩, old⟩
      · rintro ((⟨rfl, rfl⟩ | later) | ⟨⟨other, unnamed⟩, old⟩)
        · exact Or.inr ⟨fresh, Or.inl ⟨rfl, rfl⟩⟩
        · exact Or.inl later
        · exact Or.inr ⟨unnamed, Or.inr ⟨other, old⟩⟩

theorem mem_keys_approveAll_iff (ledger : Ledger) {approved : List Approval} {key : Key} :
    key ∈ (ledger.approveAll approved).positions.keys ↔
      key ∈ approved.map Approval.key ∨ key ∈ ledger.positions.keys := by
  induction approved generalizing ledger with
  | nil => simp [approveAll]
  | cons approval rest ih =>
      rw [approveAll_cons, ih, approveOne, OrderedDict.mem_keys_insert_iff, List.map_cons,
        List.mem_cons]
      tauto

/-- Writing an entry costs no more than the entry, since an entry that it replaces
was not free. -/
theorem cost_approveAll_le (ledger : Ledger) (approved : List Approval)
    (paid : ∀ entry ∈ ledger.positions.entries, 0 ≤ entry.2.cost)
    (pays : ∀ approval ∈ approved, 0 ≤ approval.capital) :
    (ledger.approveAll approved).cost ≤ ledger.cost + (approved.map Approval.capital).sum := by
  induction approved generalizing ledger with
  | nil => simp [approveAll]
  | cons approval rest ih =>
      rw [List.forall_mem_cons] at pays
      have written : (ledger.approveOne approval).cost ≤ ledger.cost + approval.capital := by
        cases found : ledger.positions.get? approval.key with
        | none =>
            exact le_of_eq (OrderedDict.total_insert_of_get?_none
              (fun (_key : Key) (entry : LedgerEntry) => entry.cost) approval.ledgerEntry found)
        | some old =>
            have replaced := OrderedDict.total_insert_of_get?_some
              (fun (_key : Key) (entry : LedgerEntry) => entry.cost) approval.ledgerEntry found
            have wasPaid := paid _ (OrderedDict.get?_eq_some_iff.mp found)
            change _ = ledger.cost + approval.capital at replaced
            exact le_of_le_of_eq (le_add_of_nonneg_right wasPaid) replaced
      have stillPaid : ∀ entry ∈ (ledger.approveOne approval).positions.entries,
          0 ≤ entry.2.cost := by
        rintro ⟨key, entry⟩ member
        rcases OrderedDict.mem_insert_iff.mp member with ⟨_, rfl⟩ | ⟨_, old⟩
        · exact pays.1
        · exact paid _ old
      rw [approveAll_cons, List.map_cons, List.sum_cons, ← add_assoc]
      exact le_trans (ih _ stillPaid pays.2) (add_le_add_left written _)

end Ledger

namespace DayReport

variable (report : DayReport) (ledger : Ledger)

def afterExits : Ledger :=
  (ledger.applyExits report.newExits).2

def correctedExits : List ExitReport :=
  (ledger.applyExits report.newExits).1

def kept : List OpenPosition :=
  report.openPositions.filter (OpenPosition.isKept ledger)

def correctedOpen : List OpenPosition :=
  (report.kept ledger).map (OpenPosition.corrected (report.afterExits ledger))

def exitsAndOpensKeys : List Key :=
  (report.correctedOpen ledger).map OpenPosition.key ++
    (report.correctedExits ledger).map ExitReport.key

/-- Positions of the ledger that no strategy reported. -/
def orphans : List (Key × LedgerEntry) :=
  (report.afterExits ledger).positions.entries.filter
    (fun entry => entry.1 ∉ report.exitsAndOpensKeys ledger)

def totalLocked : ℚ :=
  ((report.correctedOpen ledger).map OpenPosition.cost).sum +
    ((report.orphans ledger).map (fun entry => entry.2.cost)).sum

def freeCash : ℚ :=
  max 0 (totalAccountCapital - report.totalLocked ledger)

def allocation : Allocation :=
  allocate report.fetchErrors (report.freeCash ledger) (report.correctedOpen ledger)
    report.rawNewEntries

/-- The entries that are about to be written to the ledger. -/
def fundedEntries : List RawEntry :=
  if report.fetchErrors ≠ [] ∨ report.freeCash ledger < minChunkSize then []
  else
    (selected (report.freeCash ledger) (report.correctedOpen ledger)
      report.rawNewEntries).filter (fun entry => entry.validPrice.isSome)

def chunk : ℚ :=
  chunkSize (report.freeCash ledger) (report.correctedOpen ledger) report.rawNewEntries

/-- `run_master_trader` on the aggregated lists. -/
def run : RunResult :=
  { newExits := report.correctedExits ledger
    openPositions := report.correctedOpen ledger
    orphans := report.orphans ledger
    totalLocked := report.totalLocked ledger
    freeCash := report.freeCash ledger
    approved := (report.allocation ledger).approved
    rejected := (report.allocation ledger).rejected
    ledger := (report.afterExits ledger).approveAll (report.allocation ledger).approved }

theorem mem_afterExits_iff {key : Key} {entry : LedgerEntry} :
    (key, entry) ∈ (report.afterExits ledger).positions.entries ↔
      key ∉ report.newExits.map ExitReport.key ∧ (key, entry) ∈ ledger.positions.entries :=
  ledger.mem_applyExits_iff report.newExits

theorem mem_correctedOpen_keys_iff {key : Key} :
    key ∈ (report.correctedOpen ledger).map OpenPosition.key ↔
      ∃ position ∈ report.openPositions, position.isKept ledger = true ∧ position.key = key := by
  simp only [correctedOpen, kept, List.map_map, List.mem_map, List.mem_filter,
    Function.comp_apply, OpenPosition.corrected_key, and_assoc]

/-- Keys of exits have left the ledger, so orphans are the keys that are not
reported open. -/
theorem orphans_eq_filter :
    report.orphans ledger =
      (report.afterExits ledger).positions.entries.filter
        (fun entry => entry.1 ∉ (report.correctedOpen ledger).map OpenPosition.key) := by
  apply List.filter_congr
  rintro ⟨key, entry⟩ member
  have unnamed := ((report.mem_afterExits_iff ledger).mp member).1
  have notExited : key ∉ (report.correctedExits ledger).map ExitReport.key :=
    fun named => unnamed (ledger.applyExits_keys_subset report.newExits named)
  simp only [exitsAndOpensKeys, List.mem_append, notExited, or_false]

theorem correctedOpen_keys :
    (report.correctedOpen ledger).map OpenPosition.key =
      (report.kept ledger).map OpenPosition.key := by
  rw [correctedOpen, List.map_map]
  apply List.map_congr_left
  exact fun position _ => position.corrected_key _

/-- Locked capital: what the ledger holds under the reported keys, what the strategies
report outside the ledger, and the orphans. -/
theorem totalLocked_eq :
    report.totalLocked ledger =
      (((report.kept ledger).map OpenPosition.key).map
          ((report.afterExits ledger).positions.weightAt
            (fun _key entry => entry.cost))).sum +
        ((report.kept ledger).map (fun position =>
          if position.key ∈ (report.afterExits ledger).positions.keys then 0
          else position.cost)).sum +
        (((report.afterExits ledger).positions.entries.filter
          (fun entry => entry.1 ∉ (report.kept ledger).map OpenPosition.key)).map
            (fun entry => entry.2.cost)).sum := by
  rw [totalLocked, orphans_eq_filter, correctedOpen_keys, correctedOpen, List.map_map]
  congr 1
  rw [List.map_map, ← List.sum_map_add]
  apply congrArg List.sum
  apply List.map_congr_left
  exact fun position _ => position.corrected_cost _

theorem mem_approved_iff {approval : Approval} :
    approval ∈ (report.allocation ledger).approved ↔
      ∃ entry ∈ report.fundedEntries ledger, ∃ price, entry.validPrice = some price ∧
        approval =
          { strat := entry.strat
            sym := entry.sym
            qty := LotSizing.units (report.chunk ledger) price
            entryPrice := price } := by
  unfold fundedEntries allocation
  by_cases blocked : report.fetchErrors ≠ [] ∨ report.freeCash ledger < minChunkSize
  · rw [if_pos blocked, approved_of_blocked blocked]
    simp
  · have reached := not_or.mp blocked
    rw [if_neg blocked, allocate_of_reached (not_not.mp reached.1) (not_lt.mp reached.2),
      Master.mem_approved_iff]
    constructor
    · rintro ⟨entry, chosen, price, valid, same⟩
      exact ⟨entry, List.mem_filter.mpr ⟨chosen, by rw [valid]; rfl⟩, price, valid, same⟩
    · rintro ⟨entry, funded, price, valid, same⟩
      exact ⟨entry, List.mem_of_mem_filter funded, price, valid, same⟩

theorem exists_validPrice_of_mem_fundedEntries {entry : RawEntry}
    (member : entry ∈ report.fundedEntries ledger) :
    ∃ price, entry.validPrice = some price := by
  unfold fundedEntries at member
  split_ifs at member
  · contradiction
  · exact Option.isSome_iff_exists.mp (List.mem_filter.mp member).2

theorem mem_selected_of_mem_fundedEntries {entry : RawEntry}
    (member : entry ∈ report.fundedEntries ledger) :
    entry ∈ selected (report.freeCash ledger) (report.correctedOpen ledger)
      report.rawNewEntries := by
  unfold fundedEntries at member
  split_ifs at member
  · contradiction
  · exact List.mem_of_mem_filter member

theorem mem_approved_keys_iff {key : Key} :
    key ∈ (report.allocation ledger).approved.map Approval.key ↔
      key ∈ (report.fundedEntries ledger).map RawEntry.key := by
  rw [List.mem_map, List.mem_map]
  constructor
  · rintro ⟨approval, member, rfl⟩
    obtain ⟨entry, funded, price, _, rfl⟩ := (report.mem_approved_iff ledger).mp member
    exact ⟨entry, funded, rfl⟩
  · rintro ⟨entry, funded, rfl⟩
    obtain ⟨price, valid⟩ := report.exists_validPrice_of_mem_fundedEntries ledger funded
    exact ⟨_, (report.mem_approved_iff ledger).mpr ⟨entry, funded, price, valid, rfl⟩, rfl⟩

/-- The ledger after a run: the approved entries, and what it held under keys that
were neither exited nor approved. -/
theorem mem_run_ledger_iff {key : Key} {entry : LedgerEntry} :
    (key, entry) ∈ (report.run ledger).ledger.positions.entries ↔
      (∃ approval ∈ (report.allocation ledger).approved,
        approval.key = key ∧ approval.ledgerEntry = entry) ∨
      (key ∉ (report.fundedEntries ledger).map RawEntry.key ∧
        key ∉ report.newExits.map ExitReport.key ∧
        (key, entry) ∈ ledger.positions.entries) := by
  rw [← mem_afterExits_iff, ← mem_approved_keys_iff]
  exact Ledger.mem_approveAll_iff _ (approved_keys_nodup _ _ _ _)

end DayReport

/-- `run_master_trader` on the results of the replays. -/
def runMasterTrader (ledger : Ledger) (outputs : StrategyOutputs) : RunResult :=
  outputs.report.run ledger

def ledgerFrom (start : Ledger) (days : ℕ → StrategyOutputs) : ℕ → Ledger
  | 0 => start
  | day + 1 => (runMasterTrader (ledgerFrom start days day) (days day)).ledger

end TradingEngine.Master
