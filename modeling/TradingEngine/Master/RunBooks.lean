/-
The books of the master engine over many runs.

A run removes the positions that it exits and then writes those that it approves.  So a
position is held as it was last approved, an exit is booked with the quantity and the
price of that approval, and the capital of all approvals is in the ledger, was exited, or
was written over by a second approval of an orphaned position.
-/

import TradingEngine.General.BatchedDict
import TradingEngine.Master.Solvency

namespace TradingEngine.Master

open BatchedDict

/-! ### A run as a batch -/

namespace Ledger

theorem positions_applyExits (ledger : Ledger) (exits : List ExitReport) :
    (ledger.applyExits exits).2.positions =
      removeAll ledger.positions ((ledger.applyExits exits).1.map ExitReport.key) := by
  induction exits generalizing ledger with
  | nil => rfl
  | cons exit rest ih =>
      cases found : ledger.positions.get? exit.key with
      | none =>
          rw [applyExits_cons_of_missing found]
          exact ih ledger
      | some entry =>
          rw [applyExits_cons_of_held found]
          exact ih (ledger.close exit entry)

theorem positions_approveAll (ledger : Ledger) (approved : List Approval) :
    (ledger.approveAll approved).positions =
      writeAll ledger.positions
        (approved.map (fun approval => (approval.key, approval.ledgerEntry))) := by
  unfold approveAll writeAll
  rw [List.foldl_map]

/-- An exit that is booked carries the quantity of the entry that it removes, and the
gain at its price. -/
theorem exists_entry_of_mem_applyExits {ledger : Ledger} {exits : List ExitReport}
    {exit : ExitReport} (member : exit ∈ (ledger.applyExits exits).1) :
    ∃ entry, ledger.positions.get? exit.key = some entry ∧ exit.trade.qty = entry.qty ∧
      exit.trade.pnl = entry.pnlAt exit.trade.exitPrice := by
  induction exits generalizing ledger with
  | nil => cases member
  | cons first rest ih =>
      cases found : ledger.positions.get? first.key with
      | none =>
          rw [applyExits_cons_of_missing found] at member
          exact ih member
      | some entry =>
          rw [applyExits_cons_of_held found] at member
          rcases List.mem_cons.mp member with same | later
          · subst same
            exact ⟨entry, found, rfl, rfl⟩
          · obtain ⟨other, held, booked⟩ := ih later
            have kept : (ledger.positions.erase first.key).get? exit.key = some other := held
            rw [OrderedDict.get?_erase] at kept
            split_ifs at kept
            exact ⟨other, kept, booked⟩

end Ledger

section Runs

variable (days : ℕ → StrategyOutputs)

def runOn (day : ℕ) : RunResult :=
  runMasterTrader (ledgerAfter days day) (days day)

def batchOn (day : ℕ) : Batch Key LedgerEntry :=
  { removed := (runOn days day).newExits.map ExitReport.key
    written :=
      (runOn days day).approved.map (fun approval => (approval.key, approval.ledgerEntry))
    removed_nodup := Ledger.applyExits_keys_nodup _ _
    written_nodup := by
      rw [List.map_map]
      exact approved_keys_nodup _ _ _ _ }

theorem ledgerAfter_history :
    History (fun day => (ledgerAfter days day).positions) (batchOn days) where
  start := rfl
  step := by
    intro day
    change ((days day).report.run (ledgerAfter days day)).ledger.positions = _
    unfold DayReport.run
    rw [Ledger.positions_approveAll, DayReport.afterExits, Ledger.positions_applyExits]
    rfl

/-! ### What is held -/

/-- Approved on an earlier day, and neither exited nor approved again since. -/
def LastApproved (day : ℕ) (key : Key) (entry : LedgerEntry) : Prop :=
  ∃ earlier < day,
    (∃ approval ∈ (runOn days earlier).approved,
      approval.key = key ∧ approval.ledgerEntry = entry) ∧
    ∀ between, earlier < between → between < day →
      key ∉ (runOn days between).newExits.map ExitReport.key ∧
        key ∉ (runOn days between).approved.map Approval.key

theorem lastWritten_iff {day : ℕ} {key : Key} {entry : LedgerEntry} :
    LastWritten (batchOn days) day key entry ↔ LastApproved days day key entry := by
  have written : ∀ earlier, (key, entry) ∈ (batchOn days earlier).written ↔
      ∃ approval ∈ (runOn days earlier).approved,
        approval.key = key ∧ approval.ledgerEntry = entry := by
    intro earlier
    change (key, entry) ∈ List.map _ _ ↔ _
    rw [List.mem_map]
    exact exists_congr (fun approval => and_congr_right (fun _member => Prod.ext_iff))
  have names : ∀ between, (batchOn days between).written.map Prod.fst =
      (runOn days between).approved.map Approval.key := by
    intro between
    change (List.map _ _).map _ = _
    rw [List.map_map]
    rfl
  unfold LastWritten LastApproved
  simp only [written, names]
  rfl

theorem get?_ledgerAfter_iff {day : ℕ} {key : Key} {entry : LedgerEntry} :
    (ledgerAfter days day).positions.get? key = some entry ↔
      LastApproved days day key entry :=
  (ledgerAfter_history days).get?_iff.trans (lastWritten_iff days)

/-! ### What was earned -/

theorem realizedPnl_ledgerAfter (day : ℕ) :
    (ledgerAfter days day).realizedPnl =
      ∑ earlier ∈ Finset.range day,
        ((runOn days earlier).newExits.map (fun exit => exit.trade.pnl)).sum := by
  induction day with
  | zero => rfl
  | succ day ih =>
      rw [Finset.sum_range_succ, ← ih]
      exact (ledgerAfter days day).applyExits_realizedPnl (days day).report.newExits

/-! ### What was spent -/

def exitedCost (day : ℕ) : ℚ :=
  ((runOn days day).newExits.map (fun exit =>
    (ledgerAfter days day).positions.weightAt (fun _key entry => entry.cost) exit.key)).sum

/-- The cost of the orphans that a day approves again. -/
def overwrittenCost (day : ℕ) : ℚ :=
  ((runOn days day).approved.map (fun approval =>
    if approval.key ∈ (runOn days day).orphans.map Prod.fst then
      (ledgerAfter days day).positions.weightAt (fun _key entry => entry.cost) approval.key
    else 0)).sum

end Runs

section Day

variable {ledger : Ledger} {report : DayReport}

theorem not_mem_correctedOpen_of_approved {approval : Approval}
    (approved : approval ∈ (report.allocation ledger).approved) :
    approval.key ∉ (report.correctedOpen ledger).map OpenPosition.key := by
  intro reported
  obtain ⟨position, isOpen, same⟩ := List.mem_map.mp reported
  obtain ⟨entry, funded, price, _, rfl⟩ := (report.mem_approved_iff ledger).mp approved
  have apart := disjoint_open_of_mem_selected
    (report.mem_selected_of_mem_fundedEntries ledger funded) isOpen
  have symbol : position.sym = entry.sym := congrArg Key.sym same
  rw [symbol] at apart
  exact entry.sym.symParts_nonempty.ne_empty (disjoint_self.mp apart)

theorem mem_orphans_keys_iff_of_approved {approval : Approval}
    (approved : approval ∈ (report.allocation ledger).approved) :
    approval.key ∈ (report.orphans ledger).map Prod.fst ↔
      approval.key ∈ (report.afterExits ledger).positions.keys := by
  have unreported := not_mem_correctedOpen_of_approved approved
  rw [report.orphans_eq_filter]
  constructor
  · intro orphaned
    obtain ⟨entry, member, same⟩ := List.mem_map.mp orphaned
    exact same ▸ List.mem_map_of_mem (List.mem_filter.mp member).1
  · intro held
    obtain ⟨entry, member, same⟩ := List.mem_map.mp held
    refine List.mem_map.mpr ⟨entry, List.mem_filter.mpr ⟨member, ?_⟩, same⟩
    rw [same]
    exact decide_eq_true unreported

end Day

section Runs

variable (days : ℕ → StrategyOutputs)

theorem overwrittenCost_eq (day : ℕ) :
    ((batchOn days day).written.map (fun entry =>
      (removeAll (ledgerAfter days day).positions (batchOn days day).removed).weightAt
        (fun _key entry => entry.cost) entry.1)).sum = overwrittenCost days day := by
  change ((List.map _ _).map _).sum = _
  rw [List.map_map]
  unfold overwrittenCost
  congr 1
  apply List.map_congr_left
  intro approval approved
  have removed : removeAll (ledgerAfter days day).positions (batchOn days day).removed =
      ((days day).report.afterExits (ledgerAfter days day)).positions :=
    (Ledger.positions_applyExits _ _).symm
  have orphaned : approval.key ∈ (runOn days day).orphans.map Prod.fst ↔
      approval.key ∈ ((days day).report.afterExits (ledgerAfter days day)).positions.keys :=
    mem_orphans_keys_iff_of_approved approved
  rw [Function.comp_apply]
  by_cases held : approval.key ∈
      ((days day).report.afterExits (ledgerAfter days day)).positions.keys
  · rw [if_pos (orphaned.mpr held)]
    rw [← removed] at held
    have unexited : approval.key ∉ (batchOn days day).removed := by
      intro exited
      have gone := get?_removeAll (ledgerAfter days day).positions (batchOn days day).removed
        approval.key
      rw [if_pos exited] at gone
      exact OrderedDict.get?_eq_none_iff.mp gone held
    unfold OrderedDict.weightAt
    rw [get?_removeAll, if_neg unexited]
  · rw [if_neg (fun named => held (orphaned.mp named)), removed]
    unfold OrderedDict.weightAt
    rw [OrderedDict.get?_eq_none_iff.mpr held]
    rfl

theorem sum_approved_capital (day : ℕ) :
    ∑ earlier ∈ Finset.range day, ((runOn days earlier).approved.map Approval.capital).sum =
      (ledgerAfter days day).cost + ∑ earlier ∈ Finset.range day, exitedCost days earlier +
        ∑ earlier ∈ Finset.range day, overwrittenCost days earlier := by
  have conserved := (ledgerAfter_history days).sum_written
    (fun (_key : Key) (entry : LedgerEntry) => entry.cost) day
  simp only [overwrittenCost_eq] at conserved
  have spent : ∀ earlier, ((batchOn days earlier).written.map
      (fun entry => entry.2.cost)).sum =
        ((runOn days earlier).approved.map Approval.capital).sum := by
    intro earlier
    change ((List.map _ _).map _).sum = _
    rw [List.map_map]
    rfl
  have exited : ∀ earlier, ((batchOn days earlier).removed.map
      ((ledgerAfter days earlier).positions.weightAt (fun _key entry => entry.cost))).sum =
        exitedCost days earlier := by
    intro earlier
    change ((List.map _ _).map _).sum = _
    rw [List.map_map]
    rfl
  simp only [spent, exited] at conserved
  exact conserved

/-! ### The books -/

/-- The books of all runs from an empty ledger, whatever the strategies report. -/
structure BooksKept : Prop where
  held : ∀ day key entry, (ledgerAfter days day).positions.get? key = some entry ↔
    LastApproved days day key entry
  exits : ∀ day, ∀ exit ∈ (runOn days day).newExits, ∃ entry,
    LastApproved days day exit.key entry ∧ exit.trade.qty = entry.qty ∧
      exit.trade.pnl = entry.pnlAt exit.trade.exitPrice
  exitedOnce : ∀ day, ((runOn days day).newExits.map ExitReport.key).Nodup
  realized : ∀ day, (ledgerAfter days day).realizedPnl =
    ∑ earlier ∈ Finset.range day,
      ((runOn days earlier).newExits.map (fun exit => exit.trade.pnl)).sum
  capital : ∀ day,
    ∑ earlier ∈ Finset.range day, ((runOn days earlier).approved.map Approval.capital).sum =
      (ledgerAfter days day).cost + ∑ earlier ∈ Finset.range day, exitedCost days earlier +
        ∑ earlier ∈ Finset.range day, overwrittenCost days earlier

theorem runs_booksKept : BooksKept days where
  held := fun _day _key _entry => get?_ledgerAfter_iff days
  exits := by
    intro day exit booked
    obtain ⟨entry, held, shown⟩ := Ledger.exists_entry_of_mem_applyExits booked
    exact ⟨entry, (get?_ledgerAfter_iff days).mp held, shown⟩
  exitedOnce := fun day => (batchOn days day).removed_nodup
  realized := realizedPnl_ledgerAfter days
  capital := sum_approved_capital days

end Runs

end TradingEngine.Master
