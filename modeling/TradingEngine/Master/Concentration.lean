/-
Tickers under the positions of the ledger.

The dedup rule keeps the new entries apart from one another, the held-symbol
filter keeps them apart from the reported positions.  Neither looks at the
positions that no strategy reported, so these decide whether the ledger's tickers
stay disjoint.
-/

import TradingEngine.Master.Run

namespace TradingEngine.Master

def TickersDisjoint (ledger : Ledger) : Prop :=
  ∀ left ∈ ledger.positions.keys, ∀ right ∈ ledger.positions.keys, left ≠ right →
    Disjoint left.sym.symParts right.sym.symParts

instance (ledger : Ledger) : Decidable (TickersDisjoint ledger) :=
  inferInstanceAs (Decidable (∀ left ∈ ledger.positions.keys,
    ∀ right ∈ ledger.positions.keys, _ → _))

section Run

variable (ledger : Ledger) (report : DayReport)

/-- No funded entry shares a ticker with an orphan of another key. -/
def AvoidsOrphans : Prop :=
  ∀ entry ∈ report.fundedEntries ledger, ∀ orphan ∈ report.orphans ledger,
    entry.key ≠ orphan.1 → Disjoint entry.sym.symParts orphan.1.sym.symParts

variable {ledger report}

theorem open_or_orphan {key : Key} (member : key ∈ (report.afterExits ledger).positions.keys) :
    key ∈ (report.correctedOpen ledger).map OpenPosition.key ∨
      key ∈ (report.orphans ledger).map Prod.fst := by
  obtain ⟨entry, held⟩ := OrderedDict.mem_keys_iff.mp member
  by_cases reported : key ∈ (report.correctedOpen ledger).map OpenPosition.key
  · exact Or.inl reported
  · right
    rw [report.orphans_eq_filter]
    exact List.mem_map.mpr ⟨(key, entry),
      List.mem_filter.mpr ⟨held, by simpa using reported⟩, rfl⟩

theorem mem_keys_of_mem_orphans {orphan : Key × LedgerEntry}
    (member : orphan ∈ report.orphans ledger) :
    orphan.1 ∈ (report.afterExits ledger).positions.keys :=
  OrderedDict.mem_keys_of_mem (List.mem_of_mem_filter member)

theorem afterExits_keys_subset {key : Key}
    (member : key ∈ (report.afterExits ledger).positions.keys) : key ∈ ledger.positions.keys := by
  obtain ⟨entry, held⟩ := OrderedDict.mem_keys_iff.mp member
  exact OrderedDict.mem_keys_of_mem ((report.mem_afterExits_iff ledger).mp held).2

theorem fundedEntries_disjoint {left right : RawEntry}
    (leftMember : left ∈ report.fundedEntries ledger)
    (rightMember : right ∈ report.fundedEntries ledger) (other : left.key ≠ right.key) :
    Disjoint left.sym.symParts right.sym.symParts := by
  have different : left ≠ right := fun same => other (congrArg RawEntry.key same)
  have symmetric : Std.Symm (fun left right : RawEntry =>
      Disjoint left.sym.symParts right.sym.symParts) := ⟨fun _ _ apart => apart.symm⟩
  exact selected_pairwise.forall (report.mem_selected_of_mem_fundedEntries ledger leftMember)
    (report.mem_selected_of_mem_fundedEntries ledger rightMember) different

theorem fundedEntry_disjoint_old (avoids : AvoidsOrphans ledger report) {entry : RawEntry}
    (funded : entry ∈ report.fundedEntries ledger) {key : Key}
    (old : key ∈ (report.afterExits ledger).positions.keys) (other : entry.key ≠ key) :
    Disjoint entry.sym.symParts key.sym.symParts := by
  rcases open_or_orphan old with reported | unreported
  · obtain ⟨position, isOpen, rfl⟩ := List.mem_map.mp reported
    exact disjoint_open_of_mem_selected
      (report.mem_selected_of_mem_fundedEntries ledger funded) isOpen
  · obtain ⟨orphan, member, rfl⟩ := List.mem_map.mp unreported
    exact avoids entry funded orphan member other

end Run

/-- Disjoint tickers stay disjoint exactly when no funded entry shares a ticker with an
orphan of another key. -/
theorem run_tickersDisjoint_iff (ledger : Ledger) (outputs : StrategyOutputs)
    (disjoint : TickersDisjoint ledger) :
    TickersDisjoint (runMasterTrader ledger outputs).ledger ↔
      AvoidsOrphans ledger outputs.report := by
  have keys : ∀ key, key ∈ (runMasterTrader ledger outputs).ledger.positions.keys ↔
      key ∈ (outputs.report.fundedEntries ledger).map RawEntry.key ∨
        key ∈ (outputs.report.afterExits ledger).positions.keys := by
    intro key
    rw [← outputs.report.mem_approved_keys_iff ledger]
    exact Ledger.mem_keys_approveAll_iff _
  constructor
  · intro after entry funded orphan member other
    exact after entry.key ((keys _).mpr (Or.inl (List.mem_map_of_mem funded))) orphan.1
      ((keys _).mpr (Or.inr (mem_keys_of_mem_orphans member))) other
  · intro avoids left leftMember right rightMember other
    rcases (keys left).mp leftMember with new | old
    · obtain ⟨entry, funded, rfl⟩ := List.mem_map.mp new
      rcases (keys right).mp rightMember with alsoNew | alsoOld
      · obtain ⟨second, alsoFunded, rfl⟩ := List.mem_map.mp alsoNew
        exact fundedEntries_disjoint funded alsoFunded other
      · exact fundedEntry_disjoint_old avoids funded alsoOld other
    · rcases (keys right).mp rightMember with new | alsoOld
      · obtain ⟨entry, funded, rfl⟩ := List.mem_map.mp new
        exact (fundedEntry_disjoint_old avoids funded old other.symm).symm
      · exact disjoint left (afterExits_keys_subset old) right (afterExits_keys_subset alsoOld)
          other

section OneTicker

def heldByMaPullback (symbol : Symbol) : Ledger :=
  { positions := OrderedDict.empty.insert { strat := .maPullback, sym := symbol }
      { qty := 10, entryPrice := 100 }
    stats := none }

theorem run_tickersDisjoint_iff_of_other_symbol :
    TickersDisjoint (runMasterTrader (heldByMaPullback (Symbol.single "INFY"))
        (stateOutputs [] [(Symbol.single "TCS", signalState 100)])).ledger ↔
      AvoidsOrphans (heldByMaPullback (Symbol.single "INFY"))
        (stateOutputs [] [(Symbol.single "TCS", signalState 100)]).report :=
  run_tickersDisjoint_iff (heldByMaPullback (Symbol.single "INFY"))
    (stateOutputs [] [(Symbol.single "TCS", signalState 100)]) (by decide +kernel)

/-- The position of MA Pullback is not reported, and Supertrend buys its symbol. -/
theorem orphan_not_tickersDisjoint :
    ¬ ∀ ledger outputs, TickersDisjoint ledger →
      (∀ position ∈ outputs.report.openPositions, position.entryDate < paperTradingStart →
        ∀ key ∈ ledger.positions.keys, Disjoint key.sym.symParts position.sym.symParts) →
      TickersDisjoint (runMasterTrader ledger outputs).ledger := by
  intro stays
  have doubled : ¬ TickersDisjoint
      (runMasterTrader (heldByMaPullback (Symbol.single "INFY"))
        (stateOutputs [] [(Symbol.single "INFY", signalState 100)])).ledger := by
    decide +kernel
  exact doubled (stays _ _ (by decide +kernel)
    (fun position isOpen => absurd isOpen List.not_mem_nil))

end OneTicker

end TradingEngine.Master
