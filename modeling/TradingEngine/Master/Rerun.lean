/-
Running the master engine twice on the same reports.

The second run meets the positions that the first one wrote: their strategies
report them as entry signals, not as open positions, so no rule recognises them.
A run leaves a ledger alone exactly when it buys only what the ledger already
holds, at the same size, and buys back everything it exits without a profit or a
loss.
-/

import TradingEngine.Master.Run

namespace TradingEngine.Master

/-- The same keys with the same quantities and entry prices, and the same profit. -/
def SameBook (left right : Ledger) : Prop :=
  (∀ key, left.positions.get? key = right.positions.get? key) ∧
    left.realizedPnl = right.realizedPnl

/-- What a run must find in a ledger to leave it alone. -/
structure Unmoved (ledger : Ledger) (report : DayReport) : Prop where
  /-- Every funded entry is held with the size and the price it would be given. -/
  held : ∀ entry ∈ report.fundedEntries ledger, ∀ price, entry.validPrice = some price →
    ledger.positions.get? entry.key =
      some { qty := LotSizing.units (report.chunk ledger) price, entryPrice := price }
  /-- Every position that an exit of the day names is bought back. -/
  rebought : ∀ exit ∈ report.newExits, exit.key ∈ ledger.positions.keys →
    exit.key ∈ (report.fundedEntries ledger).map RawEntry.key
  /-- The exits of the day book nothing in total. -/
  booked : ((report.correctedExits ledger).map (fun exit => exit.trade.pnl)).sum = 0

section Run

variable {ledger : Ledger} {report : DayReport}

theorem run_realizedPnl :
    (report.run ledger).ledger.realizedPnl =
      ledger.realizedPnl +
        ((report.correctedExits ledger).map (fun exit => exit.trade.pnl)).sum :=
  ledger.applyExits_realizedPnl report.newExits

theorem get?_run_of_funded {entry : RawEntry} (funded : entry ∈ report.fundedEntries ledger)
    {price : ℚ} (valid : entry.validPrice = some price) :
    (report.run ledger).ledger.positions.get? entry.key =
      some { qty := LotSizing.units (report.chunk ledger) price, entryPrice := price } := by
  apply OrderedDict.get?_eq_some_iff.mpr
  apply (report.mem_run_ledger_iff ledger).mpr
  left
  exact ⟨_, (report.mem_approved_iff ledger).mpr ⟨entry, funded, price, valid, rfl⟩, rfl, rfl⟩

theorem Unmoved.of_sameBook (same : SameBook (report.run ledger).ledger ledger) :
    Unmoved ledger report := by
  obtain ⟨positions, profit⟩ := same
  constructor
  · intro entry funded price valid
    rw [← positions entry.key]
    exact get?_run_of_funded funded valid
  · intro exit member heldKey
    by_contra unfunded
    obtain ⟨entry, held⟩ := OrderedDict.mem_keys_iff.mp heldKey
    have found := OrderedDict.get?_eq_some_iff.mpr held
    rw [← positions exit.key] at found
    rcases (report.mem_run_ledger_iff ledger).mp (OrderedDict.get?_eq_some_iff.mp found) with
      ⟨approval, approved, sameKey, _⟩ | ⟨_, unnamed, _⟩
    · apply unfunded
      rw [← report.mem_approved_keys_iff, ← sameKey]
      exact List.mem_map_of_mem approved
    · exact unnamed (List.mem_map_of_mem member)
  · rw [run_realizedPnl] at profit
    exact add_eq_left.mp profit

theorem Unmoved.sameBook (unmoved : Unmoved ledger report) :
    SameBook (report.run ledger).ledger ledger := by
  constructor
  · intro key
    by_cases funded : key ∈ (report.fundedEntries ledger).map RawEntry.key
    · obtain ⟨entry, member, rfl⟩ := List.mem_map.mp funded
      obtain ⟨price, valid⟩ := report.exists_validPrice_of_mem_fundedEntries ledger member
      rw [get?_run_of_funded member valid, unmoved.held entry member price valid]
    · apply Option.ext
      intro entry
      rw [OrderedDict.get?_eq_some_iff, OrderedDict.get?_eq_some_iff,
        report.mem_run_ledger_iff ledger]
      constructor
      · rintro (⟨approval, approved, rfl, _⟩ | ⟨_, _, old⟩)
        · have named : approval.key ∈ (report.allocation ledger).approved.map Approval.key :=
            List.mem_map_of_mem approved
          exact absurd ((report.mem_approved_keys_iff ledger).mp named) funded
        · exact old
      · intro old
        refine Or.inr ⟨funded, ?_, old⟩
        intro named
        obtain ⟨exit, member, rfl⟩ := List.mem_map.mp named
        exact funded (unmoved.rebought exit member (OrderedDict.mem_keys_of_mem old))
  · rw [run_realizedPnl, unmoved.booked, add_zero]

end Run

/-- A second run on the same reports changes nothing exactly when it finds the ledger of
the first one unmoved. -/
theorem rerun_sameBook_iff (ledger : Ledger) (outputs : StrategyOutputs) :
    SameBook (runMasterTrader (runMasterTrader ledger outputs).ledger outputs).ledger
        (runMasterTrader ledger outputs).ledger ↔
      Unmoved (runMasterTrader ledger outputs).ledger outputs.report :=
  ⟨Unmoved.of_sameBook, Unmoved.sameBook⟩

/-- Two signals of one day.  The first run sizes both with half of the account; the rest
of the second half is enough for the second run to resize the first position. -/
def twoSignals : StrategyOutputs :=
  stateOutputs [(Symbol.single "INFY", signalState 100)] [(Symbol.single "MRF", signalState 60000)]

theorem twoSignals_not_sameBook :
    ¬ ∀ ledger outputs,
      SameBook (runMasterTrader (runMasterTrader ledger outputs).ledger outputs).ledger
        (runMasterTrader ledger outputs).ledger := by
  intro same
  have resized :
      (runMasterTrader (runMasterTrader Ledger.empty twoSignals).ledger
          twoSignals).ledger.positions.get? ⟨.maPullback, Symbol.single "INFY"⟩ ≠
        (runMasterTrader Ledger.empty twoSignals).ledger.positions.get?
          ⟨.maPullback, Symbol.single "INFY"⟩ := by
    decide +kernel
  exact resized ((same Ledger.empty twoSignals).1 _)

theorem rerun_sameBook_of_fetchError (ledger : Ledger) (outputs : StrategyOutputs)
    (failed : outputs.report.fetchErrors ≠ []) :
    SameBook (runMasterTrader (runMasterTrader ledger outputs).ledger outputs).ledger
      (runMasterTrader ledger outputs).ledger := by
  have unfunded : ∀ before, outputs.report.fundedEntries before = [] :=
    fun before => if_pos (Or.inl failed)
  have exited : ∀ exit ∈ outputs.report.newExits,
      exit.key ∉ (runMasterTrader ledger outputs).ledger.positions.keys := by
    intro exit member held
    obtain ⟨entry, held⟩ := OrderedDict.mem_keys_iff.mp held
    rcases (outputs.report.mem_run_ledger_iff ledger).mp held with
      ⟨approval, approved, _⟩ | ⟨_, unnamed, _⟩
    · have named : approval.key ∈ (outputs.report.fundedEntries ledger).map RawEntry.key :=
        (outputs.report.mem_approved_keys_iff ledger).mp (List.mem_map_of_mem approved)
      rw [unfunded ledger] at named
      contradiction
    · exact unnamed (List.mem_map_of_mem member)
  apply Unmoved.sameBook
  constructor
  · intro entry funded
    rw [unfunded] at funded
    contradiction
  · exact fun exit member held => absurd held (exited exit member)
  · rw [DayReport.correctedExits, Ledger.applyExits_of_missing exited]
    rfl

end TradingEngine.Master
