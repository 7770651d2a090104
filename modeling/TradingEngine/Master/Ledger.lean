/-
The position ledger of the master engine.

The ledger maps a strategy and a symbol to the quantity and the entry price that
the master engine allocated, and keeps the realised profit of what it exited.
The profit is a value with two decimals at all times, so adding a rounded result
to it and rounding again is plain addition.
-/

import TradingEngine.General.DecimalRounding
import TradingEngine.General.OrderedDict
import TradingEngine.MarketData
import TradingEngine.Scripts.ReplayLoop

namespace TradingEngine.Master

open DecimalRounding

inductive StrategyName where
  | blackSwan
  | bbSqueeze
  | maPullback
  | supertrend
deriving DecidableEq

def StrategyName.text : StrategyName → String
  | .blackSwan => "Black Swan"
  | .bbSqueeze => "BB Squeeze"
  | .maPullback => "MA Pullback"
  | .supertrend => "Supertrend"

/-- `strategy_score`, the priority of a strategy. -/
def strategyScore : StrategyName → ℕ
  | .maPullback => 4
  | .supertrend => 3
  | .bbSqueeze => 2
  | .blackSwan => 1

/-- `_pos_key`.  Strategy names contain no slash, so the text determines the pair. -/
structure Key where
  strat : StrategyName
  sym : Symbol
deriving DecidableEq

structure LedgerEntry where
  qty : ℕ
  entryPrice : ℚ
deriving DecidableEq

def LedgerEntry.cost (entry : LedgerEntry) : ℚ :=
  entry.qty * entry.entryPrice

def LedgerEntry.pnlAt (entry : LedgerEntry) (exitPrice : ℚ) : ℚ :=
  roundTo 2 ((exitPrice - entry.entryPrice) * entry.qty)

/-! ### Realised profit -/

/-- The `_stats` entry. -/
structure Stats where
  realizedPnl : ℚ
  settled : Settled 2 realizedPnl

namespace Stats

def start : Stats :=
  { realizedPnl := 0
    settled := settled_zero 2 }

def book (stats : Stats) (pnl : ℚ) : Stats :=
  { realizedPnl := roundTo 2 (stats.realizedPnl + pnl)
    settled := roundTo_settled 2 _ }

theorem book_realizedPnl (stats : Stats) {pnl : ℚ} (settled : Settled 2 pnl) :
    (stats.book pnl).realizedPnl = stats.realizedPnl + pnl :=
  stats.settled.add settled

end Stats

/-! ### Ledger -/

structure Ledger where
  positions : OrderedDict Key LedgerEntry
  stats : Option Stats

namespace Ledger

def empty : Ledger :=
  { positions := OrderedDict.empty
    stats := none }

def realizedPnl (ledger : Ledger) : ℚ :=
  ledger.stats.elim 0 Stats.realizedPnl

def cost (ledger : Ledger) : ℚ :=
  ledger.positions.total (fun _key entry => entry.cost)

end Ledger

/-! ### Exits -/

structure ExitReport where
  strat : StrategyName
  sym : Symbol
  trade : Trade ℚ
deriving DecidableEq

def ExitReport.key (exit : ExitReport) : Key :=
  { strat := exit.strat
    sym := exit.sym }

def ExitReport.corrected (exit : ExitReport) (entry : LedgerEntry) : ExitReport :=
  { exit with
    trade :=
      { exit.trade with
        qty := entry.qty
        pnl := entry.pnlAt exit.trade.exitPrice } }

namespace Ledger

def close (ledger : Ledger) (exit : ExitReport) (entry : LedgerEntry) : Ledger :=
  { positions := ledger.positions.erase exit.key
    stats := some ((ledger.stats.getD Stats.start).book (entry.pnlAt exit.trade.exitPrice)) }

/-- The exits in the order reported.  One whose key is not in the ledger is
skipped. -/
def applyExits (ledger : Ledger) : List ExitReport → List ExitReport × Ledger
  | [] => ([], ledger)
  | exit :: rest =>
      match ledger.positions.get? exit.key with
      | none => ledger.applyExits rest
      | some entry =>
          let after := (ledger.close exit entry).applyExits rest
          (exit.corrected entry :: after.1, after.2)

theorem applyExits_cons_of_missing {ledger : Ledger} {exit : ExitReport}
    (missing : ledger.positions.get? exit.key = none) (rest : List ExitReport) :
    ledger.applyExits (exit :: rest) = ledger.applyExits rest := by
  rw [applyExits, missing]

theorem applyExits_cons_of_held {ledger : Ledger} {exit : ExitReport} {entry : LedgerEntry}
    (held : ledger.positions.get? exit.key = some entry) (rest : List ExitReport) :
    ledger.applyExits (exit :: rest) =
      (exit.corrected entry :: ((ledger.close exit entry).applyExits rest).1,
        ((ledger.close exit entry).applyExits rest).2) := by
  rw [applyExits, held]

theorem close_realizedPnl (ledger : Ledger) (exit : ExitReport) (entry : LedgerEntry) :
    (ledger.close exit entry).realizedPnl =
      ledger.realizedPnl + entry.pnlAt exit.trade.exitPrice := by
  have booked := (ledger.stats.getD Stats.start).book_realizedPnl
    (roundTo_settled 2 ((exit.trade.exitPrice - entry.entryPrice) * entry.qty))
  have before : (ledger.stats.getD Stats.start).realizedPnl = ledger.realizedPnl := by
    unfold realizedPnl
    cases ledger.stats <;> rfl
  rw [before] at booked
  exact booked

theorem applyExits_of_missing {ledger : Ledger} {exits : List ExitReport}
    (missing : ∀ exit ∈ exits, exit.key ∉ ledger.positions.keys) :
    ledger.applyExits exits = ([], ledger) := by
  induction exits with
  | nil => rfl
  | cons exit rest ih =>
      rw [List.forall_mem_cons] at missing
      rw [applyExits_cons_of_missing (OrderedDict.get?_eq_none_iff.mpr missing.1)]
      exact ih missing.2

theorem applyExits_filter {ledger : Ledger} (exits : List ExitReport) {keys : List Key}
    (covers : ∀ key ∈ ledger.positions.keys, key ∈ keys) :
    ledger.applyExits (exits.filter (fun exit => exit.key ∈ keys)) = ledger.applyExits exits := by
  induction exits generalizing ledger with
  | nil => rfl
  | cons exit rest ih =>
      cases found : ledger.positions.get? exit.key with
      | none =>
          rw [applyExits_cons_of_missing found]
          by_cases listed : exit.key ∈ keys
          · rw [List.filter_cons_of_pos (by simpa using listed),
              applyExits_cons_of_missing found]
            exact ih covers
          · rw [List.filter_cons_of_neg (by simpa using listed)]
            exact ih covers
      | some entry =>
          have listed : exit.key ∈ keys :=
            covers _ (OrderedDict.mem_keys_of_mem (OrderedDict.get?_eq_some_iff.mp found))
          rw [List.filter_cons_of_pos (by simpa using listed), applyExits_cons_of_held found,
            applyExits_cons_of_held found]
          have coversLeft : ∀ key ∈ (ledger.close exit entry).positions.keys, key ∈ keys :=
            fun key left => covers key (OrderedDict.mem_keys_erase_iff.mp left).2
          rw [ih coversLeft]

theorem applyExits_realizedPnl (ledger : Ledger) (exits : List ExitReport) :
    (ledger.applyExits exits).2.realizedPnl =
      ledger.realizedPnl +
        ((ledger.applyExits exits).1.map (fun exit => exit.trade.pnl)).sum := by
  induction exits generalizing ledger with
  | nil => exact (add_zero _).symm
  | cons exit rest ih =>
      cases found : ledger.positions.get? exit.key with
      | none =>
          rw [applyExits_cons_of_missing found]
          exact ih ledger
      | some entry =>
          rw [applyExits_cons_of_held found, ih, close_realizedPnl, List.map_cons,
            List.sum_cons, add_assoc]
          rfl

theorem applyExits_keys_subset (ledger : Ledger) (exits : List ExitReport) :
    (ledger.applyExits exits).1.map ExitReport.key ⊆ exits.map ExitReport.key := by
  induction exits generalizing ledger with
  | nil => exact List.Subset.refl _
  | cons exit rest ih =>
      cases found : ledger.positions.get? exit.key with
      | none =>
          rw [applyExits_cons_of_missing found]
          exact List.subset_cons_of_subset _ (ih ledger)
      | some entry =>
          rw [applyExits_cons_of_held found]
          exact List.cons_subset_cons _ (ih (ledger.close exit entry))

theorem mem_keys_of_mem_applyExits (ledger : Ledger) (exits : List ExitReport) {key : Key}
    (exited : key ∈ (ledger.applyExits exits).1.map ExitReport.key) :
    key ∈ ledger.positions.keys := by
  induction exits generalizing ledger with
  | nil => contradiction
  | cons exit rest ih =>
      cases found : ledger.positions.get? exit.key with
      | none =>
          rw [applyExits_cons_of_missing found] at exited
          exact ih ledger exited
      | some entry =>
          rw [applyExits_cons_of_held found, List.map_cons, List.mem_cons] at exited
          rcases exited with rfl | later
          · exact OrderedDict.mem_keys_of_mem (OrderedDict.get?_eq_some_iff.mp found)
          · exact (OrderedDict.mem_keys_erase_iff.mp (ih (ledger.close exit entry) later)).2

theorem applyExits_keys_nodup (ledger : Ledger) (exits : List ExitReport) :
    ((ledger.applyExits exits).1.map ExitReport.key).Nodup := by
  induction exits generalizing ledger with
  | nil => exact List.nodup_nil
  | cons exit rest ih =>
      cases found : ledger.positions.get? exit.key with
      | none =>
          rw [applyExits_cons_of_missing found]
          exact ih ledger
      | some entry =>
          rw [applyExits_cons_of_held found, List.map_cons, List.nodup_cons]
          refine ⟨?_, ih (ledger.close exit entry)⟩
          intro again
          have left := mem_keys_of_mem_applyExits (ledger.close exit entry) rest again
          exact (OrderedDict.mem_keys_erase_iff.mp left).1 rfl

theorem exists_corrected_mem_applyExits {ledger : Ledger} {exits : List ExitReport} {key : Key}
    {entry : LedgerEntry} (held : ledger.positions.get? key = some entry)
    (named : key ∈ exits.map ExitReport.key) :
    ∃ exit ∈ exits, exit.key = key ∧ exit.corrected entry ∈ (ledger.applyExits exits).1 := by
  induction exits generalizing ledger with
  | nil => contradiction
  | cons first rest ih =>
      by_cases same : first.key = key
      · rw [← same] at held
        refine ⟨first, List.mem_cons_self, same, ?_⟩
        rw [applyExits_cons_of_held held]
        exact List.mem_cons_self
      · rw [List.map_cons, List.mem_cons] at named
        have later := named.resolve_left (fun equal => same equal.symm)
        cases found : ledger.positions.get? first.key with
        | none =>
            obtain ⟨exit, member, keyEq, corrected⟩ := ih held later
            rw [applyExits_cons_of_missing found]
            exact ⟨exit, List.mem_cons_of_mem _ member, keyEq, corrected⟩
        | some other =>
            have remains : (ledger.close first other).positions.get? key = some entry := by
              change (ledger.positions.erase first.key).get? key = some entry
              rw [OrderedDict.get?_erase, if_neg (fun equal => same equal.symm)]
              exact held
            obtain ⟨exit, member, keyEq, corrected⟩ := ih remains later
            rw [applyExits_cons_of_held found]
            exact ⟨exit, List.mem_cons_of_mem _ member, keyEq, List.mem_cons_of_mem _ corrected⟩

theorem mem_applyExits_iff (ledger : Ledger) (exits : List ExitReport) {key : Key}
    {entry : LedgerEntry} :
    (key, entry) ∈ (ledger.applyExits exits).2.positions.entries ↔
      key ∉ exits.map ExitReport.key ∧ (key, entry) ∈ ledger.positions.entries := by
  induction exits generalizing ledger with
  | nil => simp [applyExits]
  | cons exit rest ih =>
      cases found : ledger.positions.get? exit.key with
      | none =>
          have absent := OrderedDict.get?_eq_none_iff.mp found
          rw [applyExits_cons_of_missing found, ih, List.map_cons, List.mem_cons, not_or]
          constructor
          · rintro ⟨unnamed, member⟩
            refine ⟨⟨?_, unnamed⟩, member⟩
            intro same
            exact absent (same ▸ OrderedDict.mem_keys_of_mem member)
          · exact fun ⟨⟨_, unnamed⟩, member⟩ => ⟨unnamed, member⟩
      | some held =>
          rw [applyExits_cons_of_held found, ih]
          simp only [close, OrderedDict.mem_erase_iff, List.map_cons, List.mem_cons, not_or]
          constructor
          · exact fun ⟨unnamed, other, member⟩ => ⟨⟨other, unnamed⟩, member⟩
          · exact fun ⟨⟨other, unnamed⟩, member⟩ => ⟨unnamed, other, member⟩

end Ledger

end TradingEngine.Master
