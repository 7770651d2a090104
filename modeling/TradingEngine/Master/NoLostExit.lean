/-
No exit of an approved position is lost.

The replays of consecutive days keep reporting the position behind an approved
entry until its exit rule fires, and report its exit on that very day.  The master
engine carries the ledger's entry along unchanged and removes it at the first exit.
-/

import Mathlib.Data.Rat.Sqrt
import TradingEngine.Master.Market
import TradingEngine.Master.Partition

namespace TradingEngine.Master

/-! ### Days on which an exit is due -/

/-- No exit has been due since the day of the signal. -/
def Silent (due : ℕ → Bool) (signalDay day : ℕ) : Prop :=
  ∀ between, signalDay < between → between < day → due between = false

theorem Silent.mono {due : ℕ → Bool} {signalDay earlier day : ℕ} (order : earlier ≤ day)
    (silent : Silent due signalDay day) : Silent due signalDay earlier :=
  fun between after before => silent between after (Nat.lt_of_lt_of_le before order)

/-- What the reports say about a key after the day of its signal: the position is open
until an exit is due, and the exit is reported on the day on which it is. -/
structure Tracked (days : ℕ → StrategyOutputs) (due : ℕ → Bool) (key : Key)
    (signalDay : ℕ) : Prop where
  exits : ∀ day, signalDay < day → Silent due signalDay day → due day = true →
    key ∈ (days day).report.newExits.map ExitReport.key
  holds : ∀ day, signalDay < day → Silent due signalDay day → due day = false →
    key ∉ (days day).report.newExits.map ExitReport.key ∧
      key ∈ (days day).report.openPositions.map OpenPosition.key ∧
      key ∉ (days day).report.rawNewEntries.map RawEntry.key

/-! ### The ledger's side -/

section Ledgers

variable (start : Ledger) (days : ℕ → StrategyOutputs)

/-- The life of an approved entry in the ledger, in runs whose report of it is
`Tracked`. -/
structure NoLostExit (due : ℕ → Bool) (key : Key) (entry : LedgerEntry) (signalDay : ℕ) :
    Prop where
  held : ∀ day, signalDay < day → Silent due signalDay day →
    (ledgerFrom start days day).positions.get? key = some entry
  notOrphaned : ∀ day, signalDay < day → Silent due signalDay day →
    ¬ Orphaned (ledgerFrom start days day) (days day).report key entry
  reportedOpen : ∀ day, signalDay < day → Silent due signalDay day → due day = false →
    ReportedOpen (ledgerFrom start days day) (days day).report key entry ∧
      ¬ Exited (ledgerFrom start days day) (days day).report key entry
  /-- On the first day on which an exit is due it is removed, by exactly one exit. -/
  exited : ∀ day, signalDay < day → Silent due signalDay day → due day = true →
    Exited (ledgerFrom start days day) (days day).report key entry ∧
      ((runMasterTrader (ledgerFrom start days day) (days day)).newExits.map
        ExitReport.key).count key = 1
  /-- It is not removed a second time, unless the key is approved again. -/
  notExitedAgain : ∀ day, signalDay < day → Silent due signalDay day → due day = true →
    ∀ later, day < later →
      (∀ between, day ≤ between → between < later →
        key ∉ (runMasterTrader (ledgerFrom start days between) (days between)).approved.map
          Approval.key) →
      key ∉ (runMasterTrader (ledgerFrom start days later) (days later)).newExits.map
        ExitReport.key

variable {start days}

theorem get?_ledgerFrom_succ_iff {day : ℕ} {key : Key} {entry : LedgerEntry} :
    (ledgerFrom start days (day + 1)).positions.get? key = some entry ↔
      (∃ approval ∈ (runMasterTrader (ledgerFrom start days day) (days day)).approved,
        approval.key = key ∧ approval.ledgerEntry = entry) ∨
      (key ∉ ((days day).report.fundedEntries (ledgerFrom start days day)).map RawEntry.key ∧
        key ∉ (days day).report.newExits.map ExitReport.key ∧
        (ledgerFrom start days day).positions.get? key = some entry) := by
  rw [OrderedDict.get?_eq_some_iff, OrderedDict.get?_eq_some_iff]
  exact (days day).report.mem_run_ledger_iff (ledgerFrom start days day)

theorem not_mem_funded_of_not_mem_raw {report : DayReport} {ledger : Ledger} {key : Key}
    (absent : key ∉ report.rawNewEntries.map RawEntry.key) :
    key ∉ (report.fundedEntries ledger).map RawEntry.key := by
  intro funded
  obtain ⟨entry, member, rfl⟩ := List.mem_map.mp funded
  have chosen := report.mem_selected_of_mem_fundedEntries ledger member
  exact absent (List.mem_map_of_mem (mem_raw_of_mem_selected chosen))

theorem get?_ledgerFrom_of_removed {day : ℕ} {key : Key}
    (exited : key ∈ (days day).report.newExits.map ExitReport.key) {later : ℕ}
    (order : day < later)
    (unapproved : ∀ between, day ≤ between → between < later →
      key ∉ (runMasterTrader (ledgerFrom start days between) (days between)).approved.map
        Approval.key) :
    (ledgerFrom start days later).positions.get? key = none := by
  induction later with
  | zero => contradiction
  | succ later ih =>
      have here := unapproved later (Nat.le_of_lt_succ order) (Nat.lt_succ_self later)
      rw [Option.eq_none_iff_forall_ne_some]
      intro entry found
      rcases get?_ledgerFrom_succ_iff.mp found with ⟨approval, member, same, _⟩ | ⟨_, unexited, old⟩
      · exact here (same ▸ List.mem_map_of_mem member)
      · rcases Nat.lt_or_eq_of_le (Nat.le_of_lt_succ order) with between | rfl
        · rw [ih between (fun i low high => unapproved i low (Nat.lt_succ_of_lt high))] at old
          contradiction
        · exact unexited exited

theorem Tracked.held {due : ℕ → Bool} {signalDay : ℕ} {approval : Approval}
    (tracked : Tracked days due approval.key signalDay)
    (approved : approval ∈
      (runMasterTrader (ledgerFrom start days signalDay) (days signalDay)).approved)
    {day : ℕ} (order : signalDay < day) (silent : Silent due signalDay day) :
    (ledgerFrom start days day).positions.get? approval.key = some approval.ledgerEntry := by
  induction day with
  | zero => contradiction
  | succ day ih =>
      apply get?_ledgerFrom_succ_iff.mpr
      rcases Nat.lt_or_eq_of_le (Nat.le_of_lt_succ order) with later | rfl
      · right
        have silentBefore := silent.mono (Nat.le_succ day)
        have reported := tracked.holds day later silentBefore
          (silent day later (Nat.lt_succ_self day))
        exact ⟨not_mem_funded_of_not_mem_raw reported.2.2, reported.1, ih later silentBefore⟩
      · exact Or.inl ⟨approval, approved, rfl, rfl⟩

theorem Tracked.noLostExit {due : ℕ → Bool} {signalDay : ℕ} {approval : Approval}
    (tracked : Tracked days due approval.key signalDay)
    (approved : approval ∈
      (runMasterTrader (ledgerFrom start days signalDay) (days signalDay)).approved) :
    NoLostExit start days due approval.key approval.ledgerEntry signalDay := by
  constructor
  · exact fun day order silent => tracked.held approved order silent
  · intro day order silent orphaned
    have unreported := (orphaned_iff (tracked.held approved order silent)).mp orphaned
    cases dueToday : due day with
    | true => exact unreported.1 (tracked.exits day order silent dueToday)
    | false => exact unreported.2 (tracked.holds day order silent dueToday).2.1
  · intro day order silent notDue
    have held := tracked.held approved order silent
    obtain ⟨unexited, isOpen, _⟩ := tracked.holds day order silent notDue
    exact ⟨reportedOpen_of_not_exited held unexited isOpen,
      fun exited => unexited ((exited_iff held).mp exited)⟩
  · intro day order silent dueToday
    have held := tracked.held approved order silent
    have exited := (exited_iff held).mpr (tracked.exits day order silent dueToday)
    refine ⟨exited, ?_⟩
    obtain ⟨exit, _, keyEq, corrected⟩ := exited.2
    apply List.count_eq_one_of_mem
    · exact Ledger.applyExits_keys_nodup _ _
    · rw [← keyEq]
      exact List.mem_map.mpr ⟨_, corrected, rfl⟩
  · intro day order silent dueToday later after unapproved named
    have gone := get?_ledgerFrom_of_removed (tracked.exits day order silent dueToday) after
      unapproved
    exact OrderedDict.get?_eq_none_iff.mp gone (Ledger.mem_keys_of_mem_applyExits _ _ named)

end Ledgers

/-! ### The strategies' side -/

theorem any_of_unique {α κ : Type} [DecidableEq κ] {items : List α} {item : α} {key : α → κ}
    {test : α → Bool} (member : item ∈ items)
    (unique : ∀ other ∈ items, key other = key item → other = item) :
    items.any (fun other => key other = key item && test other) = test item := by
  apply Bool.eq_iff_iff.mpr
  rw [List.any_eq_true]
  constructor
  · rintro ⟨other, otherMember, found⟩
    rw [Bool.and_eq_true, decide_eq_true_iff] at found
    obtain ⟨same, passed⟩ := found
    cases unique other otherMember same
    exact passed
  · intro passed
    refine ⟨item, member, ?_⟩
    rw [decide_eq_true rfl]
    exact passed

namespace SymbolTrader

variable {I P : Type} (trader : SymbolTrader I P) (portfolio : Portfolio P)
  (markets : ℕ → Market)

/-- Whether the exit rule of the symbol's position, entered on the signal of one day,
fires on another. -/
def exitDue (sym : Symbol) (signalDay day : ℕ) : Bool :=
  portfolio.plans.any (fun plan => plan.sym = sym &&
    (trader.fetchData (markets signalDay) plan).any (fun signalFrame =>
      (trader.fetchData (markets day) plan).any (fun df =>
        (trader.rules plan.params).exitDue df (signalFrame.length - 1))))

variable {trader portfolio markets} {plan : SymbolPlan P} {frames : ℕ → Frame ℚ}

theorem exitDue_of_plan (member : plan ∈ portfolio.plans)
    (fetched : ∀ day, trader.fetchData (markets day) plan = some (frames day))
    (signalDay day : ℕ) :
    trader.exitDue portfolio markets plan.sym signalDay day =
      (trader.rules plan.params).exitDue (frames day) ((frames signalDay).length - 1) := by
  unfold exitDue
  rw [any_of_unique member (fun _ otherMember same => portfolio.plan_eq otherMember member same)]
  rw [fetched, fetched]
  rfl

theorem mem_states_iff_of_plan (member : plan ∈ portfolio.plans)
    (fetched : ∀ day, trader.fetchData (markets day) plan = some (frames day)) (day : ℕ)
    {contributes : Symbol × ReplayResult ℚ → Prop} :
    (∃ state ∈ trader.states (markets day) portfolio, state.1 = plan.sym ∧ contributes state) ↔
      contributes (plan.sym, trader.replaySymbol (frames day) plan.params) := by
  constructor
  · rintro ⟨state, listed, same, holds⟩
    obtain ⟨other, otherMember, df, otherFetched, rfl⟩ := trader.mem_states.mp listed
    cases portfolio.plan_eq otherMember member same
    rw [fetched] at otherFetched
    cases otherFetched
    exact holds
  · intro holds
    exact ⟨_, trader.mem_states.mpr ⟨plan, member, _, fetched day, rfl⟩, rfl, holds⟩

theorem tracked {days : ℕ → StrategyOutputs} {sessions : ℕ → Timestamp}
    (history : AppendOnly sessions markets) (notPair : trader.strat ≠ .blackSwan)
    (listed : ∀ day, (days day).statesOf trader.strat = trader.states (markets day) portfolio)
    (complete : ∀ day, trader.fetchErrors (markets day) portfolio = [])
    {sym : Symbol} {signalDay : ℕ}
    (signalled : { strat := trader.strat, sym := sym } ∈
      (days signalDay).report.rawNewEntries.map RawEntry.key) :
    Tracked days (trader.exitDue portfolio markets sym signalDay)
      { strat := trader.strat, sym := sym } signalDay := by
  rw [mem_rawNewEntries_keys_iff] at signalled
  obtain ⟨isPair, _⟩ | ⟨state, reported, symEq, entered⟩ := signalled
  · exact absurd isPair notPair
  rw [listed] at reported
  obtain ⟨plan, member, df, fetchedFirst, rfl⟩ := trader.mem_states.mp reported
  change plan.sym = sym at symEq
  subst symEq
  choose frames fetched using fun day => trader.exists_fetchData (complete day) member
  rw [fetched] at fetchedFirst
  cases fetchedFirst
  have replays := history.dailyFrames (fun day => trader.market_of_fetchData (fetched day))
  have due := exitDue_of_plan member fetched signalDay
  have followed : ∀ day, signalDay < day →
      Silent (trader.exitDue portfolio markets plan.sym signalDay) signalDay day →
      (trader.rules plan.params).Followed (frames day) (trader.maxHoldDays plan.params)
        ((frames signalDay).length - 1) := by
    intro day order silent
    apply ReplayRules.followed_on_later_day (trader.causal plan.params)
      (trader.single plan.params) replays order
    · exact stateEntries_ne_nil_iff.mp entered
    · intro between after before
      rw [← due]
      exact silent between after before
  constructor
  · intro day order silent dueToday
    rw [mem_newExits_keys_iff, listed]
    right
    apply (mem_states_iff_of_plan member fetched day).mpr
    rw [due] at dueToday
    exact stateExits_ne_nil_iff.mpr ((followed day order silent).exits dueToday)
  · intro day order silent notDue
    rw [due] at notDue
    obtain ⟨noExit, noEntry, stillOpen⟩ := (followed day order silent).holds notDue
    rw [mem_newExits_keys_iff, mem_openPositions_keys_iff, mem_rawNewEntries_keys_iff, listed]
    refine ⟨?_, ?_, ?_⟩
    · rintro (⟨isPair, _⟩ | reported)
      · exact notPair isPair
      · exact stateExits_ne_nil_iff.mp
          ((mem_states_iff_of_plan member fetched day).mp reported) noExit
    · right
      apply (mem_states_iff_of_plan member fetched day).mpr
      exact stateOpen_ne_nil_iff.mpr ⟨stillOpen, noEntry⟩
    · rintro (⟨isPair, _⟩ | reported)
      · exact notPair isPair
      · exact stateEntries_ne_nil_iff.mp
          ((mem_states_iff_of_plan member fetched day).mp reported) noEntry

end SymbolTrader

namespace PairPortfolio

variable (sqrt : ℚ → ℚ) (portfolio : PairPortfolio) (markets : ℕ → Market)

def exitDue (sym : Symbol) (signalDay day : ℕ) : Bool :=
  portfolio.plans.any (fun plan => plan.sym = sym &&
    plan.params.exitDue sqrt (plan.rows (markets day))
      ((plan.rows (markets signalDay)).length - 1))

variable {sqrt portfolio markets} {plan : PairPlan}

theorem exitDue_of_plan (member : plan ∈ portfolio.plans) (signalDay day : ℕ) :
    portfolio.exitDue sqrt markets plan.sym signalDay day =
      plan.params.exitDue sqrt (plan.rows (markets day))
        ((plan.rows (markets signalDay)).length - 1) := by
  unfold exitDue
  rw [any_of_unique member (fun _ otherMember same => portfolio.plan_eq otherMember member same)]

theorem mem_pairs_iff_of_plan {outputs : StrategyOutputs} {market : Market}
    (listed : outputs.swanResults = portfolio.plans.map (PairPlan.replay sqrt market))
    (member : plan ∈ portfolio.plans) {report : PaperTrader.PairReport ℚ}
    (replayed : plan.replay sqrt market = .ok report)
    {contributes : PaperTrader.PairReport ℚ → Prop} :
    (∃ r ∈ outputs.pairs, r.pair = plan.sym ∧ contributes r) ↔ contributes report := by
  constructor
  · rintro ⟨r, reported, same, holds⟩
    obtain ⟨other, otherMember, otherReplayed⟩ := (mem_pairs_iff listed).mp reported
    have pairEq : other.sym = plan.sym := by
      obtain ⟨_, _, _, _, _, _, rfl⟩ := PairPlan.replay_eq_ok otherReplayed
      exact same
    cases portfolio.plan_eq otherMember member pairEq
    rw [replayed] at otherReplayed
    cases otherReplayed
    exact holds
  · intro holds
    refine ⟨report, (mem_pairs_iff listed).mpr ⟨plan, member, replayed⟩, ?_, holds⟩
    obtain ⟨_, _, _, _, _, _, rfl⟩ := PairPlan.replay_eq_ok replayed
    rfl

theorem tracked {days : ℕ → StrategyOutputs} {sessions : ℕ → Timestamp}
    (history : AppendOnly sessions markets)
    (listed : ∀ day,
      (days day).swanResults = portfolio.plans.map (PairPlan.replay sqrt (markets day)))
    (complete : ∀ day, (days day).pairErrors = []) {sym : Symbol} {signalDay : ℕ}
    (signalled : { strat := .blackSwan, sym := sym } ∈
      (days signalDay).report.rawNewEntries.map RawEntry.key) :
    Tracked days (portfolio.exitDue sqrt markets sym signalDay)
      { strat := .blackSwan, sym := sym } signalDay := by
  rw [mem_rawNewEntries_keys_iff] at signalled
  obtain ⟨_, report, reported, symEq, entered⟩ | ⟨_, nowhere, _⟩ := signalled
  swap
  · contradiction
  obtain ⟨plan, member, replayedFirst⟩ := (mem_pairs_iff (listed signalDay)).mp reported
  choose reports replayed using fun day => exists_replay (listed day) (complete day) member
  choose framesA framesB lasts fetchedA fetchedB isLast reportEq using
    fun day => PairPlan.replay_eq_ok (replayed day)
  rw [replayed] at replayedFirst
  cases replayedFirst
  have pairEq : plan.sym = sym := by
    rw [reportEq] at symEq
    exact symEq
  subst pairEq
  have replays := history.dailyPair fetchedA fetchedB
  have due : ∀ day, portfolio.exitDue sqrt markets plan.sym signalDay day = _ :=
    exitDue_of_plan member signalDay
  have followed : ∀ day, signalDay < day →
      Silent (portfolio.exitDue sqrt markets plan.sym signalDay) signalDay day →
      PaperTrader.Followed sqrt plan.symbolA plan.symbolB plan.params (plan.rows (markets day))
        (lasts day) ((plan.rows (markets signalDay)).length - 1) := by
    intro day order silent
    apply PaperTrader.followed_on_later_day replays order (isLast signalDay) (isLast day)
    · rw [← reportEq]
      exact pairEntries_ne_nil_iff.mp entered
    · intro between after before
      rw [← due]
      exact silent between after before
  constructor
  · intro day order silent dueToday
    rw [mem_newExits_keys_iff]
    left
    refine ⟨rfl, (mem_pairs_iff_of_plan (listed day) member (replayed day)).mpr ?_⟩
    rw [due] at dueToday
    rw [pairExits_ne_nil_iff, reportEq]
    exact (followed day order silent).exits dueToday
  · intro day order silent notDue
    rw [due] at notDue
    obtain ⟨noExit, held, notNew⟩ := (followed day order silent).holds notDue
    rw [← reportEq] at noExit held notNew
    have only : ∀ contributes : PaperTrader.PairReport ℚ → Prop,
        (∃ r ∈ (days day).pairs, r.pair = plan.sym ∧ contributes r) ↔
          contributes (reports day) :=
      fun _contributes => mem_pairs_iff_of_plan (listed day) member (replayed day)
    rw [mem_newExits_keys_iff, mem_openPositions_keys_iff, mem_rawNewEntries_keys_iff]
    refine ⟨?_, ?_, ?_⟩
    · rintro (⟨_, reported⟩ | ⟨_, nowhere, _⟩)
      · exact pairExits_ne_nil_iff.mp ((only _).mp reported) noExit
      · contradiction
    · exact Or.inl ⟨rfl, (only _).mpr (pairOpen_ne_nil_iff.mpr ⟨held, notNew⟩)⟩
    · rintro (⟨_, reported⟩ | ⟨_, nowhere, _⟩)
      · have new := pairEntries_ne_nil_iff.mp ((only _).mp reported)
        rw [notNew] at new
        contradiction
      · contradiction

end PairPortfolio

/-! ### Runs over a market history -/

/-- Whether the exit rule of the key's strategy fires on a day for the position that
was entered on the signal of another. -/
def exitDue (sqrt : ℚ → ℚ) (portfolios : Portfolios) (markets : ℕ → Market) (key : Key)
    (signalDay day : ℕ) : Bool :=
  match key.strat with
  | .blackSwan => portfolios.swan.exitDue sqrt markets key.sym signalDay day
  | .bbSqueeze => (bbTrader sqrt).exitDue portfolios.bb markets key.sym signalDay day
  | .maPullback => maTrader.exitDue portfolios.ma markets key.sym signalDay day
  | .supertrend => stTrader.exitDue portfolios.st markets key.sym signalDay day

theorem tracked_of_signalled {sqrt : ℚ → ℚ} {portfolios : Portfolios}
    {sessions : ℕ → Timestamp} {markets : ℕ → Market} (history : AppendOnly sessions markets)
    (complete : ∀ day, (strategyOutputs sqrt portfolios (markets day)).report.fetchErrors = [])
    {key : Key} {signalDay : ℕ}
    (signalled : key ∈ (strategyOutputs sqrt portfolios
      (markets signalDay)).report.rawNewEntries.map RawEntry.key) :
    Tracked (fun day => strategyOutputs sqrt portfolios (markets day))
      (exitDue sqrt portfolios markets key signalDay) key signalDay := by
  have parts : ∀ day, (bbTrader sqrt).fetchErrors (markets day) portfolios.bb = [] ∧
      maTrader.fetchErrors (markets day) portfolios.ma = [] ∧
      stTrader.fetchErrors (markets day) portfolios.st = [] ∧
      (strategyOutputs sqrt portfolios (markets day)).pairErrors = [] := by
    intro day
    have nothing : (_ ++ (_ ++ _)) ++ _ = [] := complete day
    rw [List.append_eq_nil_iff, List.append_eq_nil_iff, List.append_eq_nil_iff] at nothing
    exact ⟨nothing.1.1, nothing.1.2.1, nothing.1.2.2, nothing.2⟩
  obtain ⟨strat, sym⟩ := key
  cases strat with
  | blackSwan =>
      exact PairPortfolio.tracked history (fun _day => rfl) (fun day => (parts day).2.2.2)
        signalled
  | bbSqueeze =>
      exact (bbTrader sqrt).tracked history (fun same => nomatch same) (fun _day => rfl)
        (fun day => (parts day).1) signalled
  | maPullback =>
      exact maTrader.tracked history (by decide) (fun _day => rfl)
        (fun day => (parts day).2.1) signalled
  | supertrend =>
      exact stTrader.tracked history (by decide) (fun _day => rfl)
        (fun day => (parts day).2.2.1) signalled

/-- No exit is lost in any sequence of complete daily runs over a growing history, from
any ledger: an approved entry is held and reported open until its strategy's exit rule
first fires, and leaves the ledger by one exit on that day. -/
theorem approved_noLostExit (sqrt : ℚ → ℚ) (portfolios : Portfolios)
    {sessions : ℕ → Timestamp} {markets : ℕ → Market} (history : AppendOnly sessions markets)
    (complete : ∀ day, (strategyOutputs sqrt portfolios (markets day)).report.fetchErrors = [])
    (start : Ledger) (signalDay : ℕ) {approval : Approval}
    (approved : approval ∈ (runMasterTrader
      (ledgerFrom start (fun day => strategyOutputs sqrt portfolios (markets day)) signalDay)
      (strategyOutputs sqrt portfolios (markets signalDay))).approved) :
    NoLostExit start (fun day => strategyOutputs sqrt portfolios (markets day))
      (exitDue sqrt portfolios markets approval.key signalDay) approval.key
      approval.ledgerEntry signalDay := by
  apply Tracked.noLostExit _ approved
  apply tracked_of_signalled history complete
  obtain ⟨entry, funded, _, _, rfl⟩ := (DayReport.mem_approved_iff _ _).mp approved
  have chosen := DayReport.mem_selected_of_mem_fundedEntries _ _ funded
  exact List.mem_map.mpr ⟨entry, mem_raw_of_mem_selected chosen, rfl⟩

section Breakout

/-- The third bar breaks out of a flat price. -/
def breakoutBar (i : ℕ) : Bar ℚ :=
  { timestamp := { seconds := (paperTradingStart + i) * 86400 }
    openPrice := 100
    high := if i = 2 then 110 else 100
    low := if i = 2 then 90 else 100
    close := if i = 2 then 105 else 100
    open_pos := hundred_pos
    close_pos := by split <;> norm_num }

def breakoutPortfolios : Portfolios :=
  { swan := { plans := [], distinct := List.nodup_nil }
    bb := { plans := [], distinct := List.nodup_nil }
    ma := { plans := [], distinct := List.nodup_nil }
    st :=
      { plans :=
          [{ symbol := "INFY"
             params := { atrPeriod := 1, multiplier := 0, stopLossPct := 5, maxHoldDays := 1 } }]
        distinct := List.nodup_singleton _ } }

def breakoutMarkets : ℕ → Market :=
  streamMarket breakoutBar 2

def breakoutApproval : Approval :=
  { strat := .supertrend
    sym := Symbol.single "INFY"
    qty := 1904
    entryPrice := 105 }

theorem breakoutMarkets_appendOnly :
    AppendOnly (fun day => (breakoutBar (2 + day)).timestamp) breakoutMarkets := by
  have dated : ∀ i, (breakoutBar i).timestamp.date = paperTradingStart + i :=
    fun i => Int.mul_ediv_cancel _ (by decide)
  apply streamMarket_appendOnly
  · intro i
    rw [dated, dated, Nat.cast_succ]
    exact add_lt_add_right (lt_add_one (i : ℤ)) _
  · intro day
    rw [dated]
    exact le_add_of_nonneg_right (Int.natCast_nonneg (2 + day))

theorem breakoutMarkets_complete (day : ℕ) :
    (strategyOutputs Rat.sqrt breakoutPortfolios
      (breakoutMarkets day)).report.fetchErrors = [] := by
  have long : 3 ≤ (streamFrame breakoutBar (2 + day)).length := by
    change 3 ≤ ((List.range (2 + day + 1)).map breakoutBar).length
    rw [List.length_map, List.length_range]
    omega
  have fetched : ∀ plan ∈ breakoutPortfolios.st.plans,
      (stTrader.fetchData (breakoutMarkets day) plan).isNone = false := by
    intro plan member
    have found : stTrader.fetchData (breakoutMarkets day) plan =
        some (streamFrame breakoutBar (2 + day)) := by
      rw [List.mem_singleton.mp member]
      apply Option.filter_eq_some_iff.mpr
      exact ⟨rfl, by exact decide_eq_true long⟩
    rw [found]
    rfl
  have nothing : stTrader.fetchErrors (breakoutMarkets day) breakoutPortfolios.st = [] := by
    apply List.map_eq_nil_iff.mpr
    apply List.filter_eq_nil_iff.mpr
    intro plan member
    rw [fetched plan member]
    exact Bool.false_ne_true
  change ([] ++ ([] ++ stTrader.fetchErrors (breakoutMarkets day) breakoutPortfolios.st)) ++
    [] = []
  rw [nothing]
  rfl

/-- Bought on the breakout, held on the first day and sold on the second. -/
theorem approved_noLostExit_of_breakout :
    NoLostExit Ledger.empty
        (fun day => strategyOutputs Rat.sqrt breakoutPortfolios (breakoutMarkets day))
        (exitDue Rat.sqrt breakoutPortfolios breakoutMarkets breakoutApproval.key 0)
        breakoutApproval.key breakoutApproval.ledgerEntry 0 ∧
      exitDue Rat.sqrt breakoutPortfolios breakoutMarkets breakoutApproval.key 0 1 = false ∧
      exitDue Rat.sqrt breakoutPortfolios breakoutMarkets breakoutApproval.key 0 2 = true := by
  refine ⟨?_, by decide +kernel, by decide +kernel⟩
  exact approved_noLostExit Rat.sqrt breakoutPortfolios breakoutMarkets_appendOnly
    breakoutMarkets_complete Ledger.empty 0 (by decide +kernel)

end Breakout

end TradingEngine.Master
