/-
What the master engine spends, and whether the account has it.

Within one run the approved entries are paid from the free cash, up to the single
shares whose price exceeds a chunk.  Over a sequence of runs the free cash is
computed from the fixed starting capital, so it covers what the account has only
as long as no realised loss has reduced it.
-/

import TradingEngine.Master.Run

namespace TradingEngine.Master

open DecimalRounding

/-! ### One run -/

section Budget

variable (freeCash : ℚ) (openPositions : List OpenPosition) (raw : List RawEntry)

def fundedPrices : List ℚ :=
  (selected freeCash openPositions raw).filterMap RawEntry.validPrice

/-- The selected entries without a price leave their chunks unspent. -/
def unpriced : ℕ :=
  ((selected freeCash openPositions raw).filter (fun entry => entry.validPrice.isNone)).length

/-- What prices above the chunk cost beyond it is covered by what flooring leaves of
the other chunks and by the chunks of entries without a price. -/
def OvershootCovered : Prop :=
  let chunk := chunkSize freeCash openPositions raw
  ((fundedPrices freeCash openPositions raw).map (LotSizing.excess chunk)).sum ≤
    ((fundedPrices freeCash openPositions raw).map (LotSizing.slack chunk)).sum +
      unpriced freeCash openPositions raw * chunk

theorem fundedPrices_pos : ∀ price ∈ fundedPrices freeCash openPositions raw, 0 < price := by
  intro price member
  obtain ⟨entry, _, valid⟩ := List.mem_filterMap.mp member
  exact (RawEntry.validPrice_eq_some_iff.mp valid).2

theorem length_fundedPrices_add_unpriced :
    (fundedPrices freeCash openPositions raw).length + unpriced freeCash openPositions raw =
      (selected freeCash openPositions raw).length := by
  unfold fundedPrices unpriced
  induction selected freeCash openPositions raw with
  | nil => rfl
  | cons entry rest ih =>
      cases valid : entry.validPrice with
      | none =>
          rw [List.filterMap_cons_none valid,
            List.filter_cons_of_pos (by rw [valid]; rfl), List.length_cons, List.length_cons,
            ← Nat.add_assoc, ih]
      | some price =>
          rw [List.filterMap_cons_some valid,
            List.filter_cons_of_neg (by rw [valid]; exact Bool.false_ne_true),
            List.length_cons, List.length_cons, Nat.add_right_comm, ih]

theorem sum_capital_eq :
    ((allocateChunks freeCash openPositions raw).approved.map Approval.capital).sum =
      ((fundedPrices freeCash openPositions raw).map
        (LotSizing.spend (chunkSize freeCash openPositions raw))).sum := by
  change ((List.filterMap _ _).map Approval.capital).sum = _
  unfold fundedPrices
  generalize chunkSize freeCash openPositions raw = chunk
  apply congrArg List.sum
  induction selected freeCash openPositions raw with
  | nil => rfl
  | cons entry rest ih =>
      cases valid : entry.validPrice with
      | none =>
          have dropped : entry.approve chunk = none := by
            rw [RawEntry.approve, valid]
            rfl
          rw [List.filterMap_cons_none dropped, List.filterMap_cons_none valid]
          exact ih
      | some price =>
          have approved : entry.approve chunk = some
              { strat := entry.strat
                sym := entry.sym
                qty := LotSizing.units chunk price
                entryPrice := price } := by
            rw [RawEntry.approve, valid]
            rfl
          rw [List.filterMap_cons_some approved, List.filterMap_cons_some valid, List.map_cons,
            List.map_cons, ih]
          rfl

theorem sum_capital_le_iff :
    ((allocateChunks freeCash openPositions raw).approved.map Approval.capital).sum ≤
        (selected freeCash openPositions raw).length *
          chunkSize freeCash openPositions raw ↔
      OvershootCovered freeCash openPositions raw := by
  have account := LotSizing.sum_spend_eq (chunkSize freeCash openPositions raw)
    (fundedPrices freeCash openPositions raw) (fundedPrices_pos freeCash openPositions raw)
  have count : ((selected freeCash openPositions raw).length : ℚ) =
      (fundedPrices freeCash openPositions raw).length +
        unpriced freeCash openPositions raw := by
    rw [← length_fundedPrices_add_unpriced]
    push_cast
    rfl
  rw [sum_capital_eq, account, count, add_mul, OvershootCovered]
  constructor
  · intro within
    linarith
  · intro covered
    linarith

end Budget

/-- The approved entries of a run that is not blocked cost at most the free cash
exactly when single shares above the chunk are covered. -/
theorem sum_approved_le_freeCash_iff (ledger : Ledger) (outputs : StrategyOutputs)
    (safe : outputs.report.fetchErrors = [])
    (funded : minChunkSize ≤ (runMasterTrader ledger outputs).freeCash) :
    ((runMasterTrader ledger outputs).approved.map Approval.capital).sum ≤
        (runMasterTrader ledger outputs).freeCash ↔
      OvershootCovered (outputs.report.freeCash ledger)
        (outputs.report.correctedOpen ledger) outputs.report.rawNewEntries := by
  change minChunkSize ≤ outputs.report.freeCash ledger at funded
  change ((outputs.report.allocation ledger).approved.map Approval.capital).sum ≤
    outputs.report.freeCash ledger ↔ _
  rw [DayReport.allocation, allocate_of_reached safe funded, ← sum_capital_le_iff]
  by_cases none : selected (outputs.report.freeCash ledger)
      (outputs.report.correctedOpen ledger) outputs.report.rawNewEntries = []
  · rw [approved_of_selected_nil none, none]
    simp [DayReport.freeCash]
  · rw [length_mul_chunkSize none]

theorem sum_approved_le_freeCash_iff_of_one_signal :
    ((runMasterTrader Ledger.empty
          (stateOutputs [(Symbol.single "INFY", signalState 100)] [])).approved.map
        Approval.capital).sum ≤
        (runMasterTrader Ledger.empty
          (stateOutputs [(Symbol.single "INFY", signalState 100)] [])).freeCash ↔
      OvershootCovered
        ((stateOutputs [(Symbol.single "INFY", signalState 100)] []).report.freeCash Ledger.empty)
        ((stateOutputs [(Symbol.single "INFY", signalState 100)] []).report.correctedOpen
          Ledger.empty)
        (stateOutputs [(Symbol.single "INFY", signalState 100)] []).report.rawNewEntries :=
  sum_approved_le_freeCash_iff Ledger.empty
    (stateOutputs [(Symbol.single "INFY", signalState 100)] []) rfl (by decide +kernel)

/-- One share at 250000 is approved out of a free cash of 200000. -/
theorem dear_share_overspends :
    ¬ ∀ ledger outputs, outputs.report.fetchErrors = [] →
      minChunkSize ≤ (runMasterTrader ledger outputs).freeCash →
        ((runMasterTrader ledger outputs).approved.map Approval.capital).sum ≤
          (runMasterTrader ledger outputs).freeCash := by
  intro within
  have overspent : ¬ ((runMasterTrader Ledger.empty
      (stateOutputs [(Symbol.single "MRF", signalState 250000)] [])).approved.map
        Approval.capital).sum ≤
      (runMasterTrader Ledger.empty
        (stateOutputs [(Symbol.single "MRF", signalState 250000)] [])).freeCash := by
    decide +kernel
  exact overspent (within _ _ rfl (by decide +kernel))

/-! ### A sequence of runs -/

def ledgerAfter (days : ℕ → StrategyOutputs) : ℕ → Ledger :=
  ledgerFrom Ledger.empty days

/-- Entry signals at positive prices up to the floor of a chunk, and open positions at
positive prices from the paper start on. -/
structure Admissible (outputs : StrategyOutputs) : Prop where
  entries : ∀ entry ∈ outputs.report.rawNewEntries,
    ∃ price, entry.entryPrice = some price ∧ 0 < price ∧ price ≤ minChunkSize
  opens : ∀ position ∈ outputs.report.openPositions,
    0 < position.entryPrice ∧ paperTradingStart ≤ position.entryDate

/-- The positions cost no more than the starting capital and the realised profit. -/
def Solvent (ledger : Ledger) : Prop :=
  ledger.cost ≤ totalAccountCapital + ledger.realizedPnl

/-- No exit of a position in the ledger loses more than the position cost. -/
def LosesAtMostCost (ledger : Ledger) (report : DayReport) : Prop :=
  ∀ exit ∈ report.newExits, ∀ entry ∈ ledger.positions.get? exit.key,
    -entry.cost ≤ entry.pnlAt exit.trade.exitPrice

/-- Entries are selected for funding only while no realised loss is outstanding. -/
def AllocatesWithoutLoss (ledger : Ledger) (report : DayReport) : Prop :=
  report.fetchErrors = [] → minChunkSize ≤ report.freeCash ledger →
    selected (report.freeCash ledger) (report.correctedOpen ledger) report.rawNewEntries ≠ [] →
      0 ≤ (report.afterExits ledger).realizedPnl

instance (ledger : Ledger) (report : DayReport) : Decidable (LosesAtMostCost ledger report) :=
  inferInstanceAs (Decidable (∀ exit ∈ report.newExits,
    ∀ entry ∈ ledger.positions.get? exit.key, -entry.cost ≤ entry.pnlAt exit.trade.exitPrice))

instance (ledger : Ledger) (report : DayReport) :
    Decidable (AllocatesWithoutLoss ledger report) :=
  inferInstanceAs (Decidable (_ → _ → _ → _))

/-- A loss never exceeds the cost at a price that is not negative, if the entry price
is in paise. -/
theorem neg_cost_le_pnlAt {entry : LedgerEntry} {exitPrice : ℚ}
    (paise : Settled 2 entry.entryPrice) (nonneg : 0 ≤ exitPrice) :
    -entry.cost ≤ entry.pnlAt exitPrice := by
  have settled : Settled 2 (-entry.cost) := (paise.natCast_mul entry.qty).neg
  apply settled.le_roundTo
  have proceeds : 0 ≤ exitPrice * entry.qty := mul_nonneg nonneg (Nat.cast_nonneg entry.qty)
  rw [LedgerEntry.cost, sub_mul, mul_comm (entry.qty : ℚ)]
  linarith

def Priced (ledger : Ledger) : Prop :=
  ∀ entry ∈ ledger.positions.entries, 0 < entry.2.entryPrice

theorem Priced.cost_nonneg {ledger : Ledger} (priced : Priced ledger) :
    ∀ entry ∈ ledger.positions.entries, 0 ≤ entry.2.cost :=
  fun entry member => mul_nonneg (Nat.cast_nonneg _) (le_of_lt (priced entry member))

theorem applyExits_solvent {ledger : Ledger} (solvent : Solvent ledger)
    (exits : List ExitReport)
    (bounded : ∀ exit ∈ exits, ∀ entry ∈ ledger.positions.get? exit.key,
      -entry.cost ≤ entry.pnlAt exit.trade.exitPrice) :
    Solvent (ledger.applyExits exits).2 := by
  induction exits generalizing ledger with
  | nil => exact solvent
  | cons exit rest ih =>
      rw [List.forall_mem_cons] at bounded
      cases found : ledger.positions.get? exit.key with
      | none =>
          rw [Ledger.applyExits_cons_of_missing found]
          exact ih solvent bounded.2
      | some entry =>
          rw [Ledger.applyExits_cons_of_held found]
          apply ih
          · have erased := OrderedDict.total_erase
              (fun (_key : Key) (entry : LedgerEntry) => entry.cost) found
            change (ledger.close exit entry).cost + entry.cost = ledger.cost at erased
            have loss := bounded.1 entry found
            unfold Solvent at solvent ⊢
            rw [ledger.close_realizedPnl]
            linarith
          · intro later member other heldOther
            apply bounded.2 later member other
            have kept : (ledger.positions.erase exit.key).get? later.key = some other :=
              heldOther
            rw [OrderedDict.get?_erase] at kept
            split_ifs at kept
            exact kept

section Day

variable {ledger : Ledger} {report : DayReport}

theorem afterExits_priced (priced : Priced ledger) : Priced (report.afterExits ledger) := by
  rintro ⟨key, entry⟩ member
  exact priced (key, entry) ((report.mem_afterExits_iff ledger).mp member).2

theorem afterExits_cost_le_totalLocked (priced : Priced ledger)
    (opens : ∀ position ∈ report.openPositions, 0 < position.entryPrice) :
    (report.afterExits ledger).cost ≤ report.totalLocked ledger := by
  have listed := (report.afterExits ledger).positions.total_le_sum_weightAt_add_sum_filter
    (fun _key entry => entry.cost) ((report.kept ledger).map OpenPosition.key)
    (afterExits_priced priced).cost_nonneg
  have outside : 0 ≤ ((report.kept ledger).map (fun position =>
      if position.key ∈ (report.afterExits ledger).positions.keys then 0
      else position.cost)).sum := by
    apply List.sum_nonneg
    intro value member
    obtain ⟨position, kept, rfl⟩ := List.mem_map.mp member
    split_ifs
    · exact le_refl 0
    · exact mul_nonneg (le_of_lt (opens position (List.mem_of_mem_filter kept)))
        (Nat.cast_nonneg _)
  rw [report.totalLocked_eq]
  change (report.afterExits ledger).cost ≤ _ at listed
  linarith

theorem sum_approved_le {freeCash : ℚ} (funded : minChunkSize ≤ freeCash)
    (openPositions : List OpenPosition) {raw : List RawEntry}
    (cheap : ∀ entry ∈ raw, ∃ price, entry.entryPrice = some price ∧ 0 < price ∧
      price ≤ minChunkSize) :
    ((allocateChunks freeCash openPositions raw).approved.map Approval.capital).sum ≤
      freeCash := by
  have floorPos : (0 : ℚ) < minChunkSize := by
    unfold minChunkSize
    norm_num
  by_cases none : selected freeCash openPositions raw = []
  · rw [approved_of_selected_nil none]
    exact le_trans (le_of_lt floorPos) funded
  · have floor := minChunkSize_le_chunkSize funded none
    have within : ∀ price ∈ fundedPrices freeCash openPositions raw,
        price ≤ chunkSize freeCash openPositions raw := by
      intro price member
      obtain ⟨entry, chosen, valid⟩ := List.mem_filterMap.mp member
      obtain ⟨bound, priced, _, small⟩ := cheap entry (mem_raw_of_mem_selected chosen)
      have same := (RawEntry.validPrice_eq_some_iff.mp valid).1
      rw [priced] at same
      rw [← Option.some.inj same]
      exact le_trans small floor
    have spent := LotSizing.sum_spend_le (chunkSize freeCash openPositions raw)
      (fundedPrices freeCash openPositions raw) (fundedPrices_pos freeCash openPositions raw)
      within
    have fewer : ((fundedPrices freeCash openPositions raw).length : ℚ) ≤
        (selected freeCash openPositions raw).length :=
      Nat.cast_le.mpr (List.length_filterMap_le _ _)
    rw [sum_capital_eq]
    calc
      _ ≤ ((fundedPrices freeCash openPositions raw).length : ℚ) *
          chunkSize freeCash openPositions raw := spent
      _ ≤ (selected freeCash openPositions raw).length *
          chunkSize freeCash openPositions raw :=
        mul_le_mul_of_nonneg_right fewer (le_trans (le_of_lt floorPos) floor)
      _ = freeCash := length_mul_chunkSize none

theorem approved_price_pos {approval : Approval}
    (member : approval ∈ (report.allocation ledger).approved) : 0 < approval.entryPrice := by
  by_cases blocked : report.fetchErrors ≠ [] ∨ report.freeCash ledger < minChunkSize
  · rw [DayReport.allocation, approved_of_blocked blocked] at member
    contradiction
  · have reached := not_or.mp blocked
    rw [DayReport.allocation,
      allocate_of_reached (not_not.mp reached.1) (not_lt.mp reached.2)] at member
    obtain ⟨_, _, price, valid, rfl⟩ := mem_approved_iff.mp member
    exact (RawEntry.validPrice_eq_some_iff.mp valid).2

theorem run_priced (priced : Priced ledger) : Priced (report.run ledger).ledger := by
  rintro ⟨key, entry⟩ member
  rcases (Ledger.mem_approveAll_iff _ (approved_keys_nodup _ _ _ _)).mp member with
    ⟨approval, approved, _, rfl⟩ | ⟨_, old⟩
  · exact approved_price_pos approved
  · exact afterExits_priced priced (key, entry) old

theorem run_solvent (priced : Priced ledger) (solvent : Solvent ledger)
    (entries : ∀ entry ∈ report.rawNewEntries, ∃ price, entry.entryPrice = some price ∧
      0 < price ∧ price ≤ minChunkSize)
    (opens : ∀ position ∈ report.openPositions, 0 < position.entryPrice)
    (bounded : LosesAtMostCost ledger report) (unlost : AllocatesWithoutLoss ledger report) :
    Solvent (report.run ledger).ledger := by
  have exited : Solvent (report.afterExits ledger) := applyExits_solvent solvent _ bounded
  have written := (report.afterExits ledger).cost_approveAll_le
    (report.allocation ledger).approved (afterExits_priced priced).cost_nonneg
    (fun approval member =>
      mul_nonneg (Nat.cast_nonneg _) (le_of_lt (approved_price_pos member)))
  by_cases blocked : report.fetchErrors ≠ [] ∨ report.freeCash ledger < minChunkSize
  · have nothing : (report.allocation ledger).approved = [] := approved_of_blocked blocked _ _
    change Solvent ((report.afterExits ledger).approveAll (report.allocation ledger).approved)
    rw [nothing]
    exact exited
  · obtain ⟨error, cash⟩ := not_or.mp blocked
    have safe := not_not.mp error
    have funded := not_lt.mp cash
    by_cases none : selected (report.freeCash ledger) (report.correctedOpen ledger)
        report.rawNewEntries = []
    · have nothing : (report.allocation ledger).approved = [] := by
        rw [DayReport.allocation, allocate_of_reached safe funded]
        exact approved_of_selected_nil none
      change Solvent ((report.afterExits ledger).approveAll (report.allocation ledger).approved)
      rw [nothing]
      exact exited
    · have profit := unlost safe funded none
      have spent : ((report.allocation ledger).approved.map Approval.capital).sum ≤
          report.freeCash ledger := by
        rw [DayReport.allocation, allocate_of_reached safe funded]
        exact sum_approved_le funded _ entries
      have locked := afterExits_cost_le_totalLocked priced opens
      -- The free cash is positive here, so it was not cut off at zero.
      have free : report.freeCash ledger = totalAccountCapital - report.totalLocked ledger := by
        apply max_eq_right
        by_contra negative
        have zero : report.freeCash ledger = 0 := max_eq_left (le_of_not_ge negative)
        rw [zero] at funded
        revert funded
        unfold minChunkSize
        norm_num
      change ((report.afterExits ledger).approveAll _).cost ≤
        totalAccountCapital + (report.afterExits ledger).realizedPnl
      linarith

end Day

/-- Every run of admissible days keeps the account solvent, as long as on every day the
exits lose no more than they cost and no entry is bought while a realised loss is
outstanding. -/
theorem ledgerAfter_solvent (days : ℕ → StrategyOutputs) (count : ℕ)
    (admissible : ∀ day, day < count → Admissible (days day))
    (bounded : ∀ day, day < count → LosesAtMostCost (ledgerAfter days day) (days day).report)
    (unlost : ∀ day, day < count →
      AllocatesWithoutLoss (ledgerAfter days day) (days day).report) :
    ∀ day, day ≤ count → Solvent (ledgerAfter days day) := by
  have both : ∀ day, day ≤ count →
      Priced (ledgerAfter days day) ∧ Solvent (ledgerAfter days day) := by
    intro day
    induction day with
    | zero =>
        intro _
        refine ⟨fun entry member => absurd member List.not_mem_nil, ?_⟩
        change Ledger.empty.cost ≤ totalAccountCapital + Ledger.empty.realizedPnl
        decide +kernel
    | succ day ih =>
        intro within
        obtain ⟨priced, solvent⟩ := ih (Nat.le_of_succ_le within)
        have today := admissible day within
        exact ⟨run_priced priced, run_solvent priced solvent today.entries
          (fun position member => (today.opens position member).1) (bounded day within)
          (unlost day within)⟩
  exact fun day within => (both day within).2

section Days

def infy : Symbol := Symbol.single "INFY"

def tcs : Symbol := Symbol.single "TCS"

/-- The whole account buys one symbol at 100 and sells it at `exitPrice` on the day on
which another one signals at 100. -/
def switchDays (exitPrice : ℚ) : ℕ → StrategyOutputs
  | 0 => stateOutputs [(infy, signalState 100)] []
  | 1 => stateOutputs [(infy, exitState exitPrice)] [(tcs, signalState 100)]
  | _ => stateOutputs [] []

theorem switchDays_admissible (exitPrice : ℚ) : ∀ day, Admissible (switchDays exitPrice day)
  | 0 => by
      constructor <;>
        norm_num [switchDays, stateOutputs, StrategyOutputs.report, StrategyOutputs.collect,
          StrategyOutputs.pairs, stateEntries, stateOpen, signalState, idleState, minChunkSize]
  | 1 => by
      constructor <;>
        norm_num [switchDays, stateOutputs, StrategyOutputs.report, StrategyOutputs.collect,
          StrategyOutputs.pairs, stateEntries, stateOpen, signalState, exitState, idleState,
          minChunkSize]
  | _ + 2 => by
      constructor <;>
        simp [switchDays, stateOutputs, StrategyOutputs.report, StrategyOutputs.collect,
          StrategyOutputs.pairs]

theorem ledgerAfter_solvent_of_gain : Solvent (ledgerAfter (switchDays 150) 2) :=
  ledgerAfter_solvent (switchDays 150) 2 (fun day _ => switchDays_admissible 150 day)
    (by decide +kernel) (by decide +kernel) 2 (Nat.le_refl 2)

/-- After a loss of 100000 the free cash is again 200000. -/
theorem switchDays_not_solvent :
    ¬ ∀ days : ℕ → StrategyOutputs, (∀ day, Admissible (days day)) →
      ∀ day, Solvent (ledgerAfter days day) := by
  intro solvent
  have bought : ¬ (ledgerAfter (switchDays 50) 2).cost ≤
      totalAccountCapital + (ledgerAfter (switchDays 50) 2).realizedPnl := by decide +kernel
  exact bought (solvent (switchDays 50) (switchDays_admissible 50) 2)

end Days

end TradingEngine.Master
