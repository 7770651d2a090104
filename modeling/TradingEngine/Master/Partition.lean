/-
Every position of the ledger is accounted for once.

A run that reports every key at most once per list, and none both as an exit and
as an open position, splits the ledger into exits, reported positions and orphans.
Its locked capital is the cost of what the exits leave and of the positions from
before the paper start that are not in the ledger.
-/

import TradingEngine.Master.Run

namespace TradingEngine.Master

open DecimalRounding

/-- Each key is reported at most once per list, and not both as closed today and as
open since before today. -/
structure ReportedOnce (report : DayReport) : Prop where
  opens : (report.openPositions.map OpenPosition.key).Nodup
  exits : (report.newExits.map ExitReport.key).Nodup
  entries : (report.rawNewEntries.map RawEntry.key).Nodup
  apart : ∀ position ∈ report.openPositions,
    position.key ∉ report.newExits.map ExitReport.key

section Fates

variable (ledger : Ledger) (report : DayReport)

/-- The position is gone before the entry step, and listed as an exit with the ledger's
quantity and profit. -/
def Exited (key : Key) (entry : LedgerEntry) : Prop :=
  key ∉ (report.afterExits ledger).positions.keys ∧
    ∃ exit ∈ report.newExits, exit.key = key ∧
      exit.corrected entry ∈ (report.run ledger).newExits

def ReportedOpen (key : Key) (entry : LedgerEntry) : Prop :=
  ∃ position ∈ (report.run ledger).openPositions, position.key = key ∧
    position.qty = entry.qty ∧ position.entryPrice = entry.entryPrice

def Orphaned (key : Key) (entry : LedgerEntry) : Prop :=
  (key, entry) ∈ (report.run ledger).orphans

def AccountedOnce (key : Key) (entry : LedgerEntry) : Prop :=
  (Exited ledger report key entry ∧ ¬ ReportedOpen ledger report key entry ∧
      ¬ Orphaned ledger report key entry) ∨
    (¬ Exited ledger report key entry ∧ ReportedOpen ledger report key entry ∧
      ¬ Orphaned ledger report key entry) ∨
    (¬ Exited ledger report key entry ∧ ¬ ReportedOpen ledger report key entry ∧
      Orphaned ledger report key entry)

/-- Positions older than the paper start that the ledger does not hold. -/
def legacyOpen : List OpenPosition :=
  report.openPositions.filter (fun position =>
    position.key ∉ ledger.positions.keys ∧ position.entryDate < paperTradingStart)

structure Accounted : Prop where
  partition : ∀ key entry, ledger.positions.get? key = some entry →
    AccountedOnce ledger report key entry
  /-- The realised profit grows by the exact profit of every exited position. -/
  realized : (report.run ledger).ledger.realizedPnl =
    ledger.realizedPnl + (report.newExits.map (fun exit =>
      (ledger.positions.get? exit.key).elim 0 (fun entry =>
        roundTo 2 ((exit.trade.exitPrice - entry.entryPrice) * entry.qty)))).sum
  /-- What is left after the exits and the positions outside the ledger, once each. -/
  locked : (report.run ledger).totalLocked =
    (report.afterExits ledger).cost + ((legacyOpen ledger report).map OpenPosition.cost).sum
  foreignExits : { report with
      newExits := report.newExits.filter (fun exit => exit.key ∈ ledger.positions.keys)
    }.run ledger = report.run ledger
  gated : report.fetchErrors ≠ [] →
    ∀ key ∈ (report.run ledger).ledger.positions.keys, key ∈ ledger.positions.keys

end Fates

section Run

variable {ledger : Ledger} {report : DayReport}

theorem realizedPnl_applyExits {exits : List ExitReport}
    (distinct : (exits.map ExitReport.key).Nodup) :
    (ledger.applyExits exits).2.realizedPnl =
      ledger.realizedPnl + (exits.map (fun exit =>
        (ledger.positions.get? exit.key).elim 0
          (fun entry => entry.pnlAt exit.trade.exitPrice))).sum := by
  induction exits generalizing ledger with
  | nil => exact (add_zero _).symm
  | cons exit rest ih =>
      rw [List.map_cons, List.nodup_cons] at distinct
      obtain ⟨fresh, distinct⟩ := distinct
      rw [List.map_cons, List.sum_cons]
      cases found : ledger.positions.get? exit.key with
      | none =>
          rw [Ledger.applyExits_cons_of_missing found, ih distinct, Option.elim_none, zero_add]
      | some entry =>
          have others : rest.map (fun later =>
              ((ledger.close exit entry).positions.get? later.key).elim 0
                (fun entry => entry.pnlAt later.trade.exitPrice)) =
              rest.map (fun later => (ledger.positions.get? later.key).elim 0
                (fun entry => entry.pnlAt later.trade.exitPrice)) := by
            apply List.map_congr_left
            intro later member
            have different : later.key ≠ exit.key :=
              fun same => fresh (same ▸ List.mem_map_of_mem member)
            have kept : (ledger.close exit entry).positions.get? later.key =
                ledger.positions.get? later.key := by
              change (ledger.positions.erase exit.key).get? later.key = _
              rw [OrderedDict.get?_erase, if_neg different]
            rw [kept]
          rw [Ledger.applyExits_cons_of_held found, ih distinct, others,
            ledger.close_realizedPnl, Option.elim_some, add_assoc]

theorem exited_iff {key : Key} {entry : LedgerEntry}
    (held : ledger.positions.get? key = some entry) :
    Exited ledger report key entry ↔ key ∈ report.newExits.map ExitReport.key := by
  constructor
  · rintro ⟨_, exit, member, rfl, _⟩
    exact List.mem_map_of_mem member
  · intro named
    refine ⟨?_, Ledger.exists_corrected_mem_applyExits held named⟩
    intro left
    obtain ⟨other, present⟩ := OrderedDict.mem_keys_iff.mp left
    exact ((report.mem_afterExits_iff ledger).mp present).1 named

theorem reportedOpen_of_not_exited {key : Key} {entry : LedgerEntry}
    (held : ledger.positions.get? key = some entry)
    (unexited : key ∉ report.newExits.map ExitReport.key)
    (named : key ∈ report.openPositions.map OpenPosition.key) :
    ReportedOpen ledger report key entry := by
  have present : key ∈ ledger.positions.keys :=
    OrderedDict.mem_keys_of_mem (OrderedDict.get?_eq_some_iff.mp held)
  obtain ⟨position, isOpen, rfl⟩ := List.mem_map.mp named
  have kept : position ∈ report.kept ledger := by
    apply List.mem_filter.mpr
    exact ⟨isOpen, by simp [OpenPosition.isKept, present]⟩
  have afterwards : (report.afterExits ledger).positions.get? position.key = some entry := by
    apply OrderedDict.get?_eq_some_iff.mpr
    exact (report.mem_afterExits_iff ledger).mpr
      ⟨unexited, OrderedDict.get?_eq_some_iff.mp held⟩
  refine ⟨position.corrected (report.afterExits ledger), List.mem_map_of_mem kept,
    position.corrected_key _, ?_, ?_⟩ <;>
    simp only [OpenPosition.corrected, afterwards]

theorem reportedOpen_iff (once : ReportedOnce report) {key : Key} {entry : LedgerEntry}
    (held : ledger.positions.get? key = some entry) :
    ReportedOpen ledger report key entry ↔ key ∈ report.openPositions.map OpenPosition.key := by
  constructor
  · rintro ⟨corrected, member, rfl, _⟩
    obtain ⟨position, isOpen, _, same⟩ :=
      (report.mem_correctedOpen_keys_iff ledger).mp (List.mem_map_of_mem member)
    exact List.mem_map.mpr ⟨position, isOpen, same⟩
  · intro named
    obtain ⟨position, isOpen, same⟩ := List.mem_map.mp named
    exact reportedOpen_of_not_exited held (same ▸ once.apart position isOpen) named

theorem orphaned_iff {key : Key} {entry : LedgerEntry}
    (held : ledger.positions.get? key = some entry) :
    Orphaned ledger report key entry ↔
      key ∉ report.newExits.map ExitReport.key ∧
        key ∉ report.openPositions.map OpenPosition.key := by
  have present : key ∈ ledger.positions.keys :=
    OrderedDict.mem_keys_of_mem (OrderedDict.get?_eq_some_iff.mp held)
  have openKey : key ∈ (report.correctedOpen ledger).map OpenPosition.key ↔
      key ∈ report.openPositions.map OpenPosition.key := by
    rw [report.mem_correctedOpen_keys_iff, List.mem_map]
    constructor
    · exact fun ⟨position, isOpen, _, same⟩ => ⟨position, isOpen, same⟩
    · rintro ⟨position, isOpen, rfl⟩
      exact ⟨position, isOpen, by simp [OpenPosition.isKept, present], rfl⟩
  change (key, entry) ∈ report.orphans ledger ↔ _
  rw [report.orphans_eq_filter, List.mem_filter, report.mem_afterExits_iff,
    decide_eq_true_iff, openKey]
  constructor
  · exact fun ⟨⟨unnamed, _⟩, unreported⟩ => ⟨unnamed, unreported⟩
  · exact fun ⟨unnamed, unreported⟩ =>
      ⟨⟨unnamed, OrderedDict.get?_eq_some_iff.mp held⟩, unreported⟩

theorem accountedOnce (once : ReportedOnce report) {key : Key} {entry : LedgerEntry}
    (held : ledger.positions.get? key = some entry) : AccountedOnce ledger report key entry := by
  unfold AccountedOnce
  rw [exited_iff held, reportedOpen_iff once held, orphaned_iff held]
  have apart : key ∈ report.openPositions.map OpenPosition.key →
      key ∉ report.newExits.map ExitReport.key := by
    intro named
    obtain ⟨position, isOpen, rfl⟩ := List.mem_map.mp named
    exact once.apart position isOpen
  tauto

private theorem sum_map_ite_zero {α : Type} (p : α → Prop) [DecidablePred p] (weight : α → ℚ)
    (items : List α) :
    (items.map (fun item => if p item then 0 else weight item)).sum =
      ((items.filter (fun item => ¬ p item)).map weight).sum := by
  induction items with
  | nil => rfl
  | cons item rest ih =>
      by_cases left : p item
      · rw [List.filter_cons_of_neg (by simpa using left), List.map_cons, List.sum_cons,
          if_pos left, zero_add, ih]
      · rw [List.filter_cons_of_pos (by simpa using left), List.map_cons, List.map_cons,
          List.sum_cons, List.sum_cons, if_neg left, ih]

theorem kept_filter_eq_legacyOpen (once : ReportedOnce report) :
    (report.kept ledger).filter
        (fun position => position.key ∉ (report.afterExits ledger).positions.keys) =
      legacyOpen ledger report := by
  unfold DayReport.kept legacyOpen
  rw [List.filter_filter]
  apply List.filter_congr
  intro position isOpen
  have remains : position.key ∈ (report.afterExits ledger).positions.keys ↔
      position.key ∈ ledger.positions.keys := by
    rw [OrderedDict.mem_keys_iff, OrderedDict.mem_keys_iff]
    simp only [report.mem_afterExits_iff, once.apart position isOpen, not_false_eq_true,
      true_and]
  by_cases held : position.key ∈ ledger.positions.keys <;>
    simp [OpenPosition.isKept, remains, held]

theorem totalLocked_of_reportedOnce (once : ReportedOnce report) :
    report.totalLocked ledger =
      (report.afterExits ledger).cost +
        ((legacyOpen ledger report).map OpenPosition.cost).sum := by
  have distinct : ((report.kept ledger).map OpenPosition.key).Nodup :=
    once.opens.sublist (List.filter_sublist.map OpenPosition.key)
  have split := (report.afterExits ledger).positions.sum_weightAt_add_sum_filter
    (fun _key entry => entry.cost) _ distinct
  have outside := sum_map_ite_zero
    (fun position => position.key ∈ (report.afterExits ledger).positions.keys)
    OpenPosition.cost (report.kept ledger)
  rw [kept_filter_eq_legacyOpen once] at outside
  rw [report.totalLocked_eq, outside, Ledger.cost, ← split]
  ring

theorem run_eq_of_applyExits_eq {exits : List ExitReport}
    (same : ledger.applyExits exits = ledger.applyExits report.newExits) :
    { report with newExits := exits }.run ledger = report.run ledger := by
  have exited : { report with newExits := exits }.correctedExits ledger =
      report.correctedExits ledger := congrArg Prod.fst same
  have after : { report with newExits := exits }.afterExits ledger = report.afterExits ledger :=
    congrArg Prod.snd same
  have opens : { report with newExits := exits }.correctedOpen ledger =
      report.correctedOpen ledger := by
    unfold DayReport.correctedOpen
    rw [after]
    rfl
  have orphans : { report with newExits := exits }.orphans ledger = report.orphans ledger := by
    rw [DayReport.orphans_eq_filter, DayReport.orphans_eq_filter, after, opens]
  have locked : { report with newExits := exits }.totalLocked ledger =
      report.totalLocked ledger := by
    unfold DayReport.totalLocked
    rw [opens, orphans]
  have free : { report with newExits := exits }.freeCash ledger = report.freeCash ledger := by
    unfold DayReport.freeCash
    rw [locked]
  have allocated : { report with newExits := exits }.allocation ledger =
      report.allocation ledger := by
    unfold DayReport.allocation
    rw [opens, free]
  unfold DayReport.run
  rw [exited, after, opens, orphans, locked, free, allocated]

theorem run_keys_of_fetchError (failed : report.fetchErrors ≠ []) :
    ∀ key ∈ (report.run ledger).ledger.positions.keys, key ∈ ledger.positions.keys := by
  intro key present
  have nothing : (report.allocation ledger).approved = [] :=
    approved_of_blocked (Or.inl failed) _ _
  obtain ⟨entry, member⟩ := OrderedDict.mem_keys_iff.mp present
  change (key, entry) ∈ ((report.afterExits ledger).approveAll _).positions.entries at member
  rw [nothing] at member
  exact OrderedDict.mem_keys_of_mem ((report.mem_afterExits_iff ledger).mp member).2

end Run

/-- The position accounting of every run whose reports are free of repetition. -/
theorem runMasterTrader_accounted (ledger : Ledger) (outputs : StrategyOutputs)
    (once : ReportedOnce outputs.report) : Accounted ledger outputs.report :=
  { partition := fun _key _entry held => accountedOnce once held
    realized := realizedPnl_applyExits once.exits
    locked := totalLocked_of_reportedOnce once
    foreignExits := run_eq_of_applyExits_eq (Ledger.applyExits_filter _ (fun _key held => held))
    gated := run_keys_of_fetchError }

section Mixed

/-- Three positions, of which one is exited, one reported open and one not reported. -/
def mixedLedger : Ledger :=
  { positions :=
      ((OrderedDict.empty.insert ⟨.maPullback, Symbol.single "INFY"⟩ ⟨10, 100⟩).insert
        ⟨.supertrend, Symbol.single "TCS"⟩ ⟨5, 200⟩).insert
          ⟨.bbSqueeze, Symbol.single "SBIN"⟩ ⟨7, 300⟩
    stats := none }

def mixedOutputs : StrategyOutputs :=
  stateOutputs [(Symbol.single "INFY", exitState 90), (Symbol.single "MRF", signalState 400)]
    [(Symbol.single "TCS", openState paperTradingStart 201 6),
      (Symbol.single "ITC", openState (paperTradingStart - 1) 50 3)]

theorem runMasterTrader_accounted_mixed : Accounted mixedLedger mixedOutputs.report :=
  runMasterTrader_accounted mixedLedger mixedOutputs
    { opens := by decide +kernel
      exits := by decide +kernel
      entries := by decide +kernel
      apart := by decide +kernel }

end Mixed

end TradingEngine.Master
