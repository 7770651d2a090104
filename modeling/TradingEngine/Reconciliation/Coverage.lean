/-
Which broker rows and which failed fetches show in the report.

A row shows when it cannot be mapped, when its order is compared with a ledger
order or when it is reported as unknown.  Rows without an order id and rows that a
later one with the same id replaces do not.  A failed fetch looks like an empty
order list.
-/

import TradingEngine.Reconciliation.Convergence

namespace TradingEngine.Reconciliation

open Domain Broker Execution

variable {py : Python} {clock : PassClock} {index : BrokerIndex} {rows : List RawOrder}
variable {ledger next : OrderLedger} {report : ReconciliationReport}

/-! ### Discrepancies about one order -/

def IsMismatchCode (code : DiscrepancyCode) : Prop :=
  code = .statusMismatchUpdated ∨ code = .invalidTransition

/-- A status mismatch that the report gives for a ledger order. -/
structure MismatchOf (report : ReconciliationReport) (order : InternalOrder)
    (discrepancy : ReconciliationDiscrepancy) : Prop where
  reported : discrepancy ∈ report.discrepancies
  about : discrepancy.internalOrderId = some order.internalOrderId
  code : IsMismatchCode discrepancy.code

theorem mismatchFinding_about (py : Python) (order : InternalOrder) (bid : String)
    (brokerOrder : InternalOrder) :
    (mismatchFinding py order bid brokerOrder).internalOrderId = some order.internalOrderId := by
  unfold mismatchFinding
  split_ifs <;> rfl

theorem mismatchFinding_code (py : Python) (order : InternalOrder) (bid : String)
    (brokerOrder : InternalOrder) :
    IsMismatchCode (mismatchFinding py order bid brokerOrder).code := by
  unfold mismatchFinding
  split_ifs
  · exact Or.inl rfl
  · exact Or.inr rfl

theorem mismatchFinding_actualStatus (py : Python) (order : InternalOrder) (bid : String)
    (brokerOrder : InternalOrder) :
    (mismatchFinding py order bid brokerOrder).actualStatus = some brokerOrder.status := by
  unfold mismatchFinding
  split_ifs <;> rfl

theorem findings_about {order : InternalOrder} {discrepancy : ReconciliationDiscrepancy}
    (member : discrepancy ∈ findings py index order) :
    discrepancy.internalOrderId = some order.internalOrderId := by
  cases comparison index order with
  | unsubmitted given => simp [findings, given] at member
  | missing bid given absent =>
      simp only [findings, given, absent, List.mem_singleton] at member
      rw [member]
      rfl
  | inSync bid brokerOrder given found same => simp [findings, given, found, same] at member
  | mismatch bid brokerOrder given found different =>
      simp only [findings, given, found, if_neg different, List.mem_singleton] at member
      rw [member]
      exact mismatchFinding_about py order bid brokerOrder

theorem mappingDiscrepancies_about {discrepancy : ReconciliationDiscrepancy}
    (member : discrepancy ∈ mappingDiscrepancies py clock rows) :
    discrepancy.internalOrderId = none := by
  obtain ⟨row, _, made⟩ := List.mem_filterMap.mp member
  cases mapped : row.2 with
  | error exception =>
      rw [mapped] at made
      cases made
      rfl
  | ok order =>
      rw [mapped] at made
      cases made

theorem order_eq_of_internalOrderId {left right : InternalOrder}
    (leftMember : left ∈ ledger.listOrders) (rightMember : right ∈ ledger.listOrders)
    (same : left.internalOrderId = right.internalOrderId) : left = right :=
  List.inj_on_of_nodup_map (listOrders_distinct ledger) leftMember rightMember same

theorem Reconciled.mem_findings (pass : Reconciled py clock rows ledger report next)
    {order : InternalOrder} (member : order ∈ ledger.listOrders)
    {discrepancy : ReconciliationDiscrepancy} (mismatch : MismatchOf report order discrepancy) :
    discrepancy ∈ findings py (passIndex py clock rows) order := by
  have reported := mismatch.reported
  rw [pass.discrepancies, List.mem_append, List.mem_append] at reported
  rcases reported with (mapping | finding) | unknown
  · cases (mappingDiscrepancies_about mapping).symm.trans mismatch.about
  · obtain ⟨other, present, found⟩ := List.mem_flatMap.mp finding
    have same : other.internalOrderId = order.internalOrderId :=
      Option.some.inj ((findings_about found).symm.trans mismatch.about)
    rw [← order_eq_of_internalOrderId present member same]
    exact found
  · obtain ⟨entry, _, rfl⟩ := List.mem_map.mp unknown
    cases mismatch.about

theorem mem_matchedIds_iff {orders : List InternalOrder} {bid : String} :
    bid ∈ orders.filterMap (matchedId index) ↔
      (∃ order ∈ orders, order.brokerOrderId = some bid) ∧ (index.get? bid).isSome := by
  rw [List.mem_filterMap]
  constructor
  · rintro ⟨order, member, matched⟩
    obtain ⟨brokerOrder, row, given⟩ := Option.bind_eq_some_iff.mp matched
    obtain ⟨own, ownGiven, found⟩ := Option.bind_eq_some_iff.mp row
    cases given.symm.trans ownGiven
    exact ⟨⟨order, member, given⟩, Option.isSome_iff_exists.mpr ⟨brokerOrder, found⟩⟩
  · rintro ⟨⟨order, member, given⟩, present⟩
    obtain ⟨brokerOrder, found⟩ := Option.isSome_iff_exists.mp present
    exact ⟨order, member, by simp [matchedId, rowOf, given, found]⟩

/-! ### Rows in the report -/

/-- A row is matched when its status is compared with that of a ledger order of its id. -/
def MatchedWithLedger (ledger : OrderLedger) (report : ReconciliationReport)
    (row : InternalOrder) : Prop :=
  ∃ order ∈ ledger.listOrders, ∃ bid, row.brokerOrderId = some bid ∧
    order.brokerOrderId = some bid ∧
      ((order.status = row.status ∧ ∀ discrepancy, ¬ MismatchOf report order discrepancy) ∨
        (order.status ≠ row.status ∧ ∃ discrepancy, MismatchOf report order discrepancy ∧
          discrepancy.actualStatus = some row.status))

def ReportedUnknown (report : ReconciliationReport) (row : InternalOrder) : Prop :=
  ∃ discrepancy ∈ report.discrepancies, ∃ bid, row.brokerOrderId = some bid ∧
    discrepancy.code = .unknownBrokerOrder ∧ discrepancy.brokerOrderId = .text bid ∧
      discrepancy.symbol = .text row.symbol ∧ discrepancy.actualStatus = some row.status

/-- A row that shows in the report, with what the mapper gives for it. -/
def Accounted (py : Python) (ledger : OrderLedger) (report : ReconciliationReport) :
    RawOrder × Except MappingError InternalOrder → Prop
  | (raw, .error exception) => mappingDiscrepancy py raw exception ∈ report.discrepancies
  | (_, .ok order) => MatchedWithLedger ledger report order ∨ ReportedUnknown report order

/-- No row disappears from the report. -/
def EveryRowAccounted (py : Python) (clock : PassClock) (rows : List RawOrder)
    (ledger : OrderLedger) (report : ReconciliationReport) : Prop :=
  ∀ place raw, rows[place]? = some raw →
    Accounted py ledger report (raw, mapZerodhaOrder py (clock.generatedId place) raw)

def lastWithId (orders : List InternalOrder) (bid : String) : Option InternalOrder :=
  (orders.filter (fun order => order.brokerOrderId = some bid)).getLast?

/-- The last row with the id of `row` has its status, and its symbol where no ledger order
has the id. -/
def KeptByIndex (ledger : OrderLedger) (orders : List InternalOrder) (row : InternalOrder) :
    Prop :=
  ∃ bid last, row.brokerOrderId = some bid ∧ lastWithId orders bid = some last ∧
    last.status = row.status ∧
      ((∀ order ∈ ledger.listOrders, order.brokerOrderId ≠ some bid) → last.symbol = row.symbol)

theorem mem_brokerOrders_of_mem_mapRows {raw : RawOrder} {row : InternalOrder}
    (member : (raw, Except.ok row) ∈ mapRows py clock rows) :
    row ∈ brokerOrders py clock rows :=
  List.mem_filterMap.mpr ⟨_, member, rfl⟩

theorem exists_lastWithId {orders : List InternalOrder} {row : InternalOrder} {bid : String}
    (member : row ∈ orders) (given : row.brokerOrderId = some bid) :
    ∃ last, lastWithId orders bid = some last := by
  have listed : row ∈ orders.filter (fun order => order.brokerOrderId = some bid) := by
    simp [member, given]
  exact ⟨_, List.getLast?_eq_some_getLast (List.ne_nil_of_mem listed)⟩

theorem Reconciled.kept_of_matched (pass : Reconciled py clock rows ledger report next)
    {row : InternalOrder} (member : row ∈ brokerOrders py clock rows)
    (matched : MatchedWithLedger ledger report row) :
    KeptByIndex ledger (brokerOrders py clock rows) row := by
  obtain ⟨order, present, bid, given, ownGiven, compared⟩ := matched
  obtain ⟨last, isLast⟩ := exists_lastWithId member given
  refine ⟨bid, last, given, isLast, ?_, fun none => absurd ownGiven (none order present)⟩
  have found : (passIndex py clock rows).get? bid = some last :=
    (get?_brokerById _ _).trans isLast
  by_cases same : order.status = last.status
  · rcases compared with ⟨sameRow, _⟩ | ⟨_, discrepancy, mismatch, _⟩
    · exact same.symm.trans sameRow
    · have finding := pass.mem_findings present mismatch
      simp [findings, ownGiven, found, same] at finding
  · rcases compared with ⟨_, noMismatch⟩ | ⟨_, discrepancy, mismatch, actual⟩
    · obtain ⟨bid', reported⟩ := pass.finding_mem present
        (by simp [rowOf, ownGiven, found]) same
      exact absurd ⟨reported, mismatchFinding_about py order bid' last,
        mismatchFinding_code py order bid' last⟩ (noMismatch _)
    · have finding := pass.mem_findings present mismatch
      simp only [findings, ownGiven, found, if_neg same, List.mem_singleton] at finding
      rw [finding, mismatchFinding_actualStatus] at actual
      exact Option.some.inj actual

theorem Reconciled.unknown_of_code (pass : Reconciled py clock rows ledger report next)
    {discrepancy : ReconciliationDiscrepancy} (member : discrepancy ∈ report.discrepancies)
    (code : discrepancy.code = .unknownBrokerOrder) :
    ∃ bid last, lastWithId (brokerOrders py clock rows) bid = some last ∧
      discrepancy = unknownDiscrepancy py bid last := by
  rw [pass.discrepancies, List.mem_append, List.mem_append] at member
  rcases member with (mapping | finding) | unknown
  · cases (mappingDiscrepancies_code mapping).symm.trans code
  · obtain ⟨order, _, found⟩ := List.mem_flatMap.mp finding
    cases comparison (passIndex py clock rows) order with
    | unsubmitted given => simp [findings, given] at found
    | missing bid given absent =>
        simp only [findings, given, absent, List.mem_singleton] at found
        rw [found] at code
        cases code
    | inSync bid brokerOrder given row same => simp [findings, given, row, same] at found
    | mismatch bid brokerOrder given row different =>
        simp only [findings, given, row, if_neg different, List.mem_singleton] at found
        rw [found] at code
        rcases mismatchFinding_code py order bid brokerOrder with updated | invalid
        · cases updated.symm.trans code
        · cases invalid.symm.trans code
  · obtain ⟨⟨bid, last⟩, entry, rfl⟩ := List.mem_map.mp unknown
    refine ⟨bid, last, ?_, rfl⟩
    have stored := OrderedDict.get?_eq_some_iff.mpr (List.mem_filter.mp entry).1
    exact (get?_brokerById _ _).symm.trans stored

theorem Reconciled.kept_of_unknown (pass : Reconciled py clock rows ledger report next)
    {row : InternalOrder} (unknown : ReportedUnknown report row) :
    KeptByIndex ledger (brokerOrders py clock rows) row := by
  obtain ⟨discrepancy, member, bid, given, code, sameId, symbol, status⟩ := unknown
  obtain ⟨own, last, isLast, rfl⟩ := pass.unknown_of_code member code
  cases sameId
  exact ⟨bid, last, given, isLast, Option.some.inj status,
    fun _ => RawValue.text.inj symbol⟩

theorem Reconciled.matched_of_kept (pass : Reconciled py clock rows ledger report next)
    {row last order : InternalOrder} {bid : String} (given : row.brokerOrderId = some bid)
    (isLast : lastWithId (brokerOrders py clock rows) bid = some last)
    (status : last.status = row.status) (member : order ∈ ledger.listOrders)
    (ownGiven : order.brokerOrderId = some bid) : MatchedWithLedger ledger report row := by
  have found : (passIndex py clock rows).get? bid = some last :=
    (get?_brokerById _ _).trans isLast
  refine ⟨order, member, bid, given, ownGiven, ?_⟩
  rw [← status]
  by_cases same : order.status = last.status
  · left
    refine ⟨same, ?_⟩
    intro discrepancy mismatch
    have finding := pass.mem_findings member mismatch
    simp [findings, ownGiven, found, same] at finding
  · right
    obtain ⟨bid', reported⟩ := pass.finding_mem member (by simp [rowOf, ownGiven, found]) same
    exact ⟨same, _, ⟨reported, mismatchFinding_about py order bid' last,
      mismatchFinding_code py order bid' last⟩, mismatchFinding_actualStatus py order bid' last⟩

theorem Reconciled.unknown_of_kept (pass : Reconciled py clock rows ledger report next)
    {row last : InternalOrder} {bid : String} (given : row.brokerOrderId = some bid)
    (isLast : lastWithId (brokerOrders py clock rows) bid = some last)
    (status : last.status = row.status) (symbol : last.symbol = row.symbol)
    (noOrder : ∀ order ∈ ledger.listOrders, order.brokerOrderId ≠ some bid) :
    ReportedUnknown report row := by
  have found : (passIndex py clock rows).get? bid = some last :=
    (get?_brokerById _ _).trans isLast
  have unmatched :
      bid ∉ ledger.listOrders.filterMap (matchedId (passIndex py clock rows)) := by
    intro matched
    obtain ⟨⟨order, member, ownGiven⟩, _⟩ := mem_matchedIds_iff.mp matched
    exact noOrder order member ownGiven
  have entry : (bid, last) ∈ unknownEntries (passIndex py clock rows)
      (ledger.listOrders.filterMap (matchedId (passIndex py clock rows))) :=
    List.mem_filter.mpr ⟨OrderedDict.get?_eq_some_iff.mp found, by simpa using unmatched⟩
  refine ⟨unknownDiscrepancy py bid last, ?_, bid, given, rfl, rfl, ?_, ?_⟩
  · rw [pass.discrepancies]
    exact List.mem_append_right _ (List.mem_map.mpr ⟨_, entry, rfl⟩)
  · exact congrArg RawValue.text symbol
  · exact congrArg some status

theorem Reconciled.kept_of_accounted (pass : Reconciled py clock rows ledger report next)
    (accounted : EveryRowAccounted py clock rows ledger report) {row : InternalOrder}
    (member : row ∈ brokerOrders py clock rows) :
    KeptByIndex ledger (brokerOrders py clock rows) row := by
  obtain ⟨raw, mapped⟩ := mem_mapRows_of_mem_brokerOrders member
  obtain ⟨place, own, found, same⟩ := mem_mapRows_iff.mp mapped
  have shown := accounted place own found
  rw [← same] at shown
  rcases shown with matched | unknown
  · exact pass.kept_of_matched member matched
  · exact pass.kept_of_unknown unknown

theorem Reconciled.accounted_of_kept (pass : Reconciled py clock rows ledger report next)
    (kept : ∀ row ∈ brokerOrders py clock rows,
      KeptByIndex ledger (brokerOrders py clock rows) row) :
    EveryRowAccounted py clock rows ledger report := by
  intro place raw found
  have mapped : (raw, mapZerodhaOrder py (clock.generatedId place) raw) ∈
      mapRows py clock rows :=
    mem_mapRows_iff.mpr ⟨place, raw, found, rfl⟩
  cases result : mapZerodhaOrder py (clock.generatedId place) raw with
  | error exception =>
      rw [result] at mapped
      have made : mappingDiscrepancy py raw exception ∈ mappingDiscrepancies py clock rows :=
        List.mem_filterMap.mpr ⟨_, mapped, rfl⟩
      show mappingDiscrepancy py raw exception ∈ report.discrepancies
      rw [pass.discrepancies, List.append_assoc]
      exact List.mem_append_left _ made
  | ok row =>
      rw [result] at mapped
      obtain ⟨bid, last, given, isLast, status, symbol⟩ :=
        kept row (mem_brokerOrders_of_mem_mapRows mapped)
      by_cases known : ∃ order ∈ ledger.listOrders, order.brokerOrderId = some bid
      · obtain ⟨order, member, ownGiven⟩ := known
        exact Or.inl (pass.matched_of_kept given isLast status member ownGiven)
      · have noOrder : ∀ order ∈ ledger.listOrders, order.brokerOrderId ≠ some bid := by
          intro order member ownGiven
          exact known ⟨order, member, ownGiven⟩
        exact Or.inr (pass.unknown_of_kept given isLast status (symbol noOrder) noOrder)

theorem every_row_accounted_iff (py : Python) (clock : PassClock) (rows : List RawOrder)
    (positions : PositionsResponse) (ledger : OrderLedger) :
    ∃ report next, reconcile py clock (.list rows) positions ledger = (.ok report, next) ∧
      (EveryRowAccounted py clock rows ledger report ↔
        ∀ row ∈ brokerOrders py clock rows,
          KeptByIndex ledger (brokerOrders py clock rows) row) := by
  obtain ⟨report, next, result, pass⟩ := reconcile_spec py clock (.list rows) positions ledger
  exact ⟨report, next, result, fun accounted _ member => pass.kept_of_accounted accounted member,
    pass.accounted_of_kept⟩

def rowWithoutId : RawOrder :=
  { sampleRow "OPEN" with orderId := .text "" }

theorem row_without_id_disappears :
    ∃ report next, reconcile Python.ascii somePass.1 (.list [rowWithoutId]) .raised
        OrderLedger.empty = (.ok report, next) ∧
      ¬ EveryRowAccounted Python.ascii somePass.1 [rowWithoutId] OrderLedger.empty report := by
  obtain ⟨report, next, result, pass⟩ :=
    reconcile_spec Python.ascii somePass.1 (.list [rowWithoutId]) .raised OrderLedger.empty
  refine ⟨report, next, result, ?_⟩
  intro accounted
  have mapped : ∃ row ∈ brokerOrders Python.ascii somePass.1 [rowWithoutId],
      row.brokerOrderId = none :=
    ⟨_, List.mem_singleton_self _, rfl⟩
  obtain ⟨row, member, noId⟩ := mapped
  obtain ⟨bid, last, given, _⟩ := pass.kept_of_accounted accounted member
  cases noId.symm.trans given

/-! ### Failed fetches -/

def Fetched (orders : OrdersResponse) : Prop :=
  ∃ rows, orders = .list rows

theorem fetchBrokerOrders_of_not_fetched {orders : OrdersResponse} (failed : ¬ Fetched orders) :
    fetchBrokerOrders orders = [] := by
  cases orders with
  | list rows => exact absurd ⟨rows, rfl⟩ failed
  | other => rfl
  | raised => rfl

theorem Reconciled.success_iff_of_no_rows (pass : Reconciled py clock [] ledger report next) :
    report.success = true ↔ ∀ order ∈ ledger.listOrders, order.brokerOrderId = none := by
  have only : report.discrepancies =
      ledger.listOrders.flatMap (findings py (passIndex py clock [])) := by
    rw [pass.discrepancies]
    exact (List.append_nil _).trans (List.nil_append _)
  unfold ReconciliationReport.success
  rw [only]
  constructor
  · intro success order member
    cases given : order.brokerOrderId with
    | none => rfl
    | some bid =>
        have reported : missingDiscrepancy py order bid ∈
            ledger.listOrders.flatMap (findings py (passIndex py clock [])) := by
          apply List.mem_flatMap.mpr
          refine ⟨order, member, ?_⟩
          unfold findings
          rw [given]
          exact List.mem_singleton_self _
        simp only [decide_eq_true_eq, List.any_eq_true, not_exists, not_and] at success
        exact absurd rfl (success _ reported)
  · intro unsubmitted
    have none : ledger.listOrders.flatMap (findings py (passIndex py clock [])) = [] := by
      apply List.flatMap_eq_nil_iff.mpr
      intro order member
      simp [findings, unsubmitted order member]
    rw [none]
    rfl

theorem success_only_if_fetched_iff (py : Python) (clock : PassClock) (orders : OrdersResponse)
    (positions : PositionsResponse) (ledger : OrderLedger) :
    ∃ report next, reconcile py clock orders positions ledger = (.ok report, next) ∧
      ((report.success = true → Fetched orders) ↔
        Fetched orders ∨ ∃ order ∈ ledger.listOrders, order.brokerOrderId.isSome) := by
  obtain ⟨report, next, result, pass⟩ := reconcile_spec py clock orders positions ledger
  refine ⟨report, next, result, ?_⟩
  by_cases fetched : Fetched orders
  · exact ⟨fun _ => Or.inl fetched, fun _ _ => fetched⟩
  · rw [fetchBrokerOrders_of_not_fetched fetched] at pass
    rw [pass.success_iff_of_no_rows]
    simp [fetched, Option.isSome_iff_ne_none]

theorem raised_fetch_is_a_success :
    ∃ report next, reconcile Python.ascii somePass.1 .raised .raised OrderLedger.empty =
        (.ok report, next) ∧ report.success = true ∧ ¬ Fetched .raised := by
  obtain ⟨report, next, result, pass⟩ :=
    reconcile_spec Python.ascii somePass.1 .raised .raised OrderLedger.empty
  refine ⟨report, next, result, ?_, fun ⟨_, listed⟩ => nomatch listed⟩
  exact pass.success_iff_of_no_rows.mpr (fun _ member => nomatch member)

end TradingEngine.Reconciliation
