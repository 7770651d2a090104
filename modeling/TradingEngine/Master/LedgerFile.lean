/-
The ledger file of the master engine.

A run reads the file first and replaces it last.  A file that cannot be read counts as
an empty ledger, so the run allocates as if nothing were held and then writes its own
view over the file.
-/

import TradingEngine.Master.Run

namespace TradingEngine.Master

/-- `json.loads` and `json.dumps` on ledgers. -/
structure LedgerCodec (Text : Type) where
  loads : Text → Option Ledger
  dumps : Ledger → Text
  loads_dumps : ∀ ledger, loads (dumps ledger) = some ledger

/-- The ledger file and the temporary file beside it. -/
structure LedgerDisk (Text : Type) where
  ledgerFile : Option Text
  tmpFile : Option Text

variable {Text : Type} (codec : LedgerCodec Text)

/-- `load_ledger`. -/
def loadLedger (disk : LedgerDisk Text) : Ledger :=
  match disk.ledgerFile with
  | none => Ledger.empty
  | some text =>
      match codec.loads text with
      | none => Ledger.empty
      | some ledger => ledger

namespace LedgerDisk

def writeTmp (disk : LedgerDisk Text) (text : Text) : LedgerDisk Text :=
  { disk with tmpFile := some text }

/-- `os.replace(tmp, LEDGER_PATH)`. -/
def replace (disk : LedgerDisk Text) : LedgerDisk Text :=
  { ledgerFile := disk.tmpFile
    tmpFile := none }

end LedgerDisk

/-- `save_ledger`. -/
def saveLedger (disk : LedgerDisk Text) (ledger : Ledger) : LedgerDisk Text :=
  (disk.writeTmp (codec.dumps ledger)).replace

/-- A run from the file and back to it. -/
def masterRun (disk : LedgerDisk Text) (outputs : StrategyOutputs) :
    RunResult × LedgerDisk Text :=
  let result := runMasterTrader (loadLedger codec disk) outputs
  (result, saveLedger codec disk result.ledger)

theorem loadLedger_saveLedger (disk : LedgerDisk Text) (ledger : Ledger) :
    loadLedger codec (saveLedger codec disk ledger) = ledger := by
  unfold loadLedger saveLedger LedgerDisk.writeTmp LedgerDisk.replace
  dsimp only
  rw [codec.loads_dumps]

theorem loadLedger_masterRun (disk : LedgerDisk Text) (outputs : StrategyOutputs) :
    loadLedger codec (masterRun codec disk outputs).2 =
      (runMasterTrader (loadLedger codec disk) outputs).ledger :=
  loadLedger_saveLedger codec disk _

def diskFrom (start : LedgerDisk Text) (days : ℕ → StrategyOutputs) : ℕ → LedgerDisk Text
  | 0 => start
  | day + 1 => (masterRun codec (diskFrom start days day) (days day)).2

theorem loadLedger_diskFrom (start : LedgerDisk Text) (days : ℕ → StrategyOutputs) (day : ℕ) :
    loadLedger codec (diskFrom codec start days day) =
      ledgerFrom (loadLedger codec start) days day := by
  induction day with
  | zero => rfl
  | succ day ih =>
      unfold diskFrom ledgerFrom
      rw [loadLedger_masterRun, ih]

theorem loadLedger_of_unreadable {disk : LedgerDisk Text} {text : Text}
    (stored : disk.ledgerFile = some text) (unreadable : codec.loads text = none) :
    loadLedger codec disk = Ledger.empty := by
  unfold loadLedger
  rw [stored]
  dsimp only
  rw [unreadable]

theorem exists_loads_of_ledgerFile_masterRun {disk : LedgerDisk Text}
    {outputs : StrategyOutputs} {text : Text}
    (stored : (masterRun codec disk outputs).2.ledgerFile = some text) :
    ∃ ledger, codec.loads text = some ledger := by
  change some (codec.dumps _) = some text at stored
  cases stored
  exact ⟨_, codec.loads_dumps _⟩

/-- An unreadable ledger is never kept: the run allocates as from an empty ledger and
replaces the file. -/
theorem unreadable_not_preserved {disk : LedgerDisk Text} {text : Text}
    (stored : disk.ledgerFile = some text) (unreadable : codec.loads text = none)
    (outputs : StrategyOutputs) :
    (masterRun codec disk outputs).1 = runMasterTrader Ledger.empty outputs ∧
      ¬ ((masterRun codec disk outputs).1.approved = [] ∧
        (masterRun codec disk outputs).2.ledgerFile = some text) := by
  constructor
  · unfold masterRun
    rw [loadLedger_of_unreadable codec stored unreadable]
  · intro preserved
    obtain ⟨ledger, readable⟩ := exists_loads_of_ledgerFile_masterRun codec preserved.2
    rw [unreadable] at readable
    cases readable

/-! ### A truncated file -/

/-- Texts that are a ledger or nothing. -/
def plainCodec : LedgerCodec (Option Ledger) :=
  { loads := fun text => text
    dumps := some
    loads_dumps := fun _ledger => rfl }

def truncatedDisk : LedgerDisk (Option Ledger) :=
  { ledgerFile := some none
    tmpFile := none }

theorem truncatedDisk_not_preserved :
    (masterRun plainCodec truncatedDisk (stateOutputs [(Symbol.single "INFY", signalState 100)]
        [])).1 =
      runMasterTrader Ledger.empty (stateOutputs [(Symbol.single "INFY", signalState 100)] []) ∧
      ¬ ((masterRun plainCodec truncatedDisk
          (stateOutputs [(Symbol.single "INFY", signalState 100)] [])).1.approved = [] ∧
        (masterRun plainCodec truncatedDisk
          (stateOutputs [(Symbol.single "INFY", signalState 100)] [])).2.ledgerFile = some none) :=
  unreadable_not_preserved plainCodec rfl rfl _

/-- The whole account goes to a new entry, and the file is replaced. -/
theorem truncatedDisk_approves :
    (masterRun plainCodec truncatedDisk
        (stateOutputs [(Symbol.single "INFY", signalState 100)] [])).1.approved =
      [{ strat := .maPullback, sym := Symbol.single "INFY", qty := 2000, entryPrice := 100 }] ∧
      (masterRun plainCodec truncatedDisk
        (stateOutputs [(Symbol.single "INFY", signalState 100)] [])).2.ledgerFile ≠ some none := by
  constructor
  · decide +kernel
  · exact nofun

end TradingEngine.Master
