/-
Soundness of a reconciliation pass.

A pass keeps the set of ledger orders, changes a matched order along one edge of
the transition table or not at all, and its counts agree with the ledger and with
the discrepancies.  A second pass over the same rows finds nothing to update.
-/

import TradingEngine.Reconciliation.Pass

namespace TradingEngine.Reconciliation

open Domain Broker Execution

variable {py : Python} {clock : PassClock} {index : BrokerIndex} {rows : List RawOrder}
variable {ledger next : OrderLedger} {report : ReconciliationReport}

/-! ### Counts -/

theorem matched_add_missing (index : BrokerIndex) (orders : List InternalOrder) :
    (orders.filterMap (matchedId index)).length + orders.countP (IsMissing index) =
      orders.countP (fun order => order.brokerOrderId.isSome) := by
  induction orders with
  | nil => rfl
  | cons order rest ih =>
      rw [List.countP_cons, List.countP_cons, ← ih]
      cases comparison index order with
      | unsubmitted given => simp [matchedId, IsMissing, rowOf, given]
      | missing bid given absent =>
          simp [matchedId, IsMissing, rowOf, given, absent]
          omega
      | inSync bid brokerOrder given found _ =>
          simp [matchedId, IsMissing, rowOf, given, found]
          omega
      | mismatch bid brokerOrder given found _ =>
          simp [matchedId, IsMissing, rowOf, given, found]
          omega

def withCode (code : DiscrepancyCode) (discrepancy : ReconciliationDiscrepancy) : Bool :=
  discrepancy.code = code

theorem findings_count (py : Python) (index : BrokerIndex) (order : InternalOrder) :
    (findings py index order).countP (withCode .statusMismatchUpdated) +
        (findings py index order).countP (withCode .invalidTransition) =
      if IsMismatch index order then 1 else 0 := by
  cases comparison index order with
  | unsubmitted given => simp [findings, IsMismatch, rowOf, given]
  | missing bid given absent =>
      simp [findings, IsMismatch, rowOf, given, absent, withCode, missingDiscrepancy]
  | inSync bid brokerOrder given found same =>
      simp [findings, IsMismatch, rowOf, given, found, same]
  | mismatch bid brokerOrder given found different =>
      by_cases edge : Edge order.status brokerOrder.status
      · simp [findings, IsMismatch, rowOf, given, found, different, mismatchFinding, edge, withCode,
          updatedDiscrepancy]
      · simp [findings, IsMismatch, rowOf, given, found, different, mismatchFinding, edge, withCode,
          invalidDiscrepancy]

theorem flatMap_findings_count (py : Python) (index : BrokerIndex)
    (orders : List InternalOrder) :
    (orders.flatMap (findings py index)).countP (withCode .statusMismatchUpdated) +
        (orders.flatMap (findings py index)).countP (withCode .invalidTransition) =
      orders.countP (IsMismatch index) := by
  induction orders with
  | nil => rfl
  | cons order rest ih =>
      have head := findings_count py index order
      rw [List.flatMap_cons, List.countP_append, List.countP_append, List.countP_cons, ← ih]
      omega

theorem mappingDiscrepancies_code {discrepancy : ReconciliationDiscrepancy}
    (member : discrepancy ∈ mappingDiscrepancies py clock rows) :
    discrepancy.code = .mappingError := by
  obtain ⟨row, _, made⟩ := List.mem_filterMap.mp member
  cases mapped : row.2 with
  | error exception =>
      rw [mapped] at made
      cases made
      rfl
  | ok order =>
      rw [mapped] at made
      cases made

theorem Reconciled.count_of_code (pass : Reconciled py clock rows ledger report next)
    {code : DiscrepancyCode} (notMapping : code ≠ .mappingError)
    (notUnknown : code ≠ .unknownBrokerOrder) :
    report.discrepancies.countP (withCode code) =
      (ledger.listOrders.flatMap (findings py (passIndex py clock rows))).countP
        (withCode code) := by
  rw [pass.discrepancies, List.countP_append, List.countP_append]
  have noMapping : (mappingDiscrepancies py clock rows).countP (withCode code) = 0 := by
    apply List.countP_eq_zero.mpr
    intro discrepancy member
    simp [withCode, mappingDiscrepancies_code member, notMapping.symm]
  have noUnknown (entries : List (String × InternalOrder)) :
      (entries.map (fun entry => unknownDiscrepancy py entry.1 entry.2)).countP
        (withCode code) = 0 := by
    apply List.countP_eq_zero.mpr
    intro discrepancy member
    obtain ⟨entry, _, rfl⟩ := List.mem_map.mp member
    simp [withCode, unknownDiscrepancy, notUnknown.symm]
  rw [noMapping, noUnknown]
  omega

/-! ### Matched orders -/

/-- A discrepancy about a matched order and the broker order it was compared with. -/
structure Reports (order brokerOrder : InternalOrder) (code : DiscrepancyCode)
    (severity : Severity) (discrepancy : ReconciliationDiscrepancy) : Prop where
  code : discrepancy.code = code
  severity : discrepancy.severity = severity
  internalOrderId : discrepancy.internalOrderId = some order.internalOrderId
  expectedStatus : discrepancy.expectedStatus = some order.status
  actualStatus : discrepancy.actualStatus = some brokerOrder.status

theorem Reconciled.finding_mem (pass : Reconciled py clock rows ledger report next)
    {order brokerOrder : InternalOrder} (member : order ∈ ledger.listOrders)
    (row : rowOf (passIndex py clock rows) order = some brokerOrder)
    (different : order.status ≠ brokerOrder.status) :
    ∃ bid, mismatchFinding py order bid brokerOrder ∈ report.discrepancies := by
  obtain ⟨bid, given, found⟩ := Option.bind_eq_some_iff.mp row
  refine ⟨bid, ?_⟩
  rw [pass.discrepancies]
  apply List.mem_append_left
  apply List.mem_append_right
  apply List.mem_flatMap.mpr
  refine ⟨order, member, ?_⟩
  simp [findings, given, found, different]

/-- What a pass may do with a matched order. -/
inductive Settlement (report : ReconciliationReport) (next : OrderLedger)
    (order brokerOrder : InternalOrder) : Prop where
  | inSync (same : order.status = brokerOrder.status)
      (kept : next.order? order.internalOrderId = some order)
  | updated (edge : Edge order.status brokerOrder.status) (after : InternalOrder)
      (ends : after.status = brokerOrder.status)
      (stored : next.order? order.internalOrderId = some after)
      (reported : ∃ discrepancy ∈ report.discrepancies,
        Reports order brokerOrder .statusMismatchUpdated .low discrepancy)
  | refused (different : order.status ≠ brokerOrder.status)
      (kept : next.order? order.internalOrderId = some order)
      (reported : ∃ discrepancy ∈ report.discrepancies,
        Reports order brokerOrder .invalidTransition .high discrepancy)

theorem Reconciled.settlement (pass : Reconciled py clock rows ledger report next)
    {order brokerOrder : InternalOrder} (member : order ∈ ledger.listOrders)
    (row : rowOf (passIndex py clock rows) order = some brokerOrder) :
    Settlement report next order brokerOrder := by
  have stored := pass.order? order member
  unfold reconciled at stored
  simp only [row] at stored
  by_cases same : order.status = brokerOrder.status
  · have noEdge : ¬ Edge order.status brokerOrder.status := by
      rw [← same]
      exact not_edge_self _
    rw [if_neg noEdge] at stored
    exact .inSync same stored
  · obtain ⟨bid, found⟩ := pass.finding_mem member row same
    unfold mismatchFinding at found
    by_cases edge : Edge order.status brokerOrder.status
    · rw [if_pos edge] at stored found
      refine .updated edge _ ?_ stored ⟨_, found, ⟨rfl, rfl, rfl, rfl, rfl⟩⟩
      rfl
    · rw [if_neg edge] at stored found
      exact .refused same stored ⟨_, found, ⟨rfl, rfl, rfl, rfl, rfl⟩⟩

/-! ### The same rows again -/

theorem brokerOrders_withId (py : Python) (clock : PassClock) (rows : List RawOrder)
    (id : String) :
    (brokerOrders py clock rows).map (withId id) =
      rows.filterMap (fun raw => (mapZerodhaOrder py id raw).toOption) := by
  unfold brokerOrders mapRows
  generalize clock.generatedId = generated
  induction rows generalizing generated with
  | nil => rfl
  | cons raw rest ih =>
      have tail := ih (fun place => generated (place + 1))
      have head := mapZerodhaOrder_withId py (generated 0) id raw
      rw [List.mapIdx_cons, List.filterMap_cons, List.filterMap_cons, head]
      cases mapped : mapZerodhaOrder py (generated 0) raw with
      | error exception => exact tail
      | ok order => exact congrArg (List.cons (withId id order)) tail

/-- The status that the rows give for a broker id: that of the last mapped row with the id. -/
def reportedStatus (py : Python) (rows : List RawOrder) (bid : String) : Option OrderStatus :=
  (((rows.filterMap (fun raw => (mapZerodhaOrder py "" raw).toOption)).filter
    (fun order => order.brokerOrderId = some bid)).getLast?).map (fun order => order.status)

theorem get?_passIndex_status (py : Python) (clock : PassClock) (rows : List RawOrder)
    (bid : String) :
    ((passIndex py clock rows).get? bid).map (fun order => order.status) =
      reportedStatus py rows bid := by
  unfold reportedStatus passIndex
  rw [get?_brokerById, ← brokerOrders_withId py clock, List.filter_map, List.getLast?_map,
    Option.map_map]
  rfl

theorem rowOf_status {order brokerOrder : InternalOrder}
    (row : rowOf (passIndex py clock rows) order = some brokerOrder) :
    order.brokerOrderId.bind (reportedStatus py rows) = some brokerOrder.status := by
  obtain ⟨bid, given, found⟩ := Option.bind_eq_some_iff.mp row
  rw [given, Option.bind_some, ← get?_passIndex_status py clock, found]
  rfl

theorem reconciled_brokerOrderId (order : InternalOrder) :
    (reconciled clock index order).brokerOrderId = order.brokerOrderId := by
  unfold reconciled
  split
  · rfl
  · split_ifs
    · exact Option.none_or
    · rfl

theorem Reconciled.mem_listOrders (pass : Reconciled py clock rows ledger report next)
    {after : InternalOrder} (member : after ∈ next.listOrders) :
    ∃ order ∈ ledger.listOrders, after = reconciled clock (passIndex py clock rows) order := by
  have key : after.internalOrderId ∈
      ledger.listOrders.map (fun order => order.internalOrderId) := by
    rw [listOrders_ids, ← pass.keys, ← listOrders_ids]
    exact List.mem_map.mpr ⟨after, member, rfl⟩
  obtain ⟨order, present, same⟩ := List.mem_map.mp key
  have stored := pass.order? order present
  rw [same, OrderLedger.mem_listOrders_iff.mp member] at stored
  exact ⟨order, present, Option.some.inj stored⟩

theorem Reconciled.no_edge_again (pass : Reconciled py clock rows ledger report next)
    {again : PassClock} {after brokerOrder : InternalOrder} (member : after ∈ next.listOrders)
    (row : rowOf (passIndex py again rows) after = some brokerOrder) :
    ¬ Edge after.status brokerOrder.status := by
  obtain ⟨order, _, rfl⟩ := pass.mem_listOrders member
  have reported := rowOf_status row
  rw [reconciled_brokerOrderId] at reported
  cases firstRow : rowOf (passIndex py clock rows) order with
  | none =>
      obtain ⟨bid, given, found⟩ := Option.bind_eq_some_iff.mp reported
      have missing : (passIndex py clock rows).get? bid = none := by
        simpa [rowOf, given] using firstRow
      rw [← get?_passIndex_status py clock, missing] at found
      cases found
  | some first =>
      have sameStatus : brokerOrder.status = first.status :=
        Option.some.inj (reported.symm.trans (rowOf_status firstRow))
      rw [sameStatus]
      unfold reconciled
      simp only [firstRow]
      split_ifs with edge
      · exact not_edge_self _
      · exact edge

theorem findings_of_not_edge {order : InternalOrder}
    (settled : ∀ brokerOrder, rowOf index order = some brokerOrder →
      ¬ Edge order.status brokerOrder.status) :
    ∀ discrepancy ∈ findings py index order, discrepancy.code ≠ .statusMismatchUpdated := by
  intro discrepancy member
  cases comparison index order with
  | unsubmitted given => simp [findings, given] at member
  | missing bid given absent =>
      simp only [findings, given, absent, List.mem_singleton] at member
      rw [member]
      simp [missingDiscrepancy]
  | inSync bid brokerOrder given found same => simp [findings, given, found, same] at member
  | mismatch bid brokerOrder given found different =>
      have noEdge := settled brokerOrder (by simp [rowOf, given, found])
      simp only [findings, given, found, if_neg different, mismatchFinding, if_neg noEdge,
        List.mem_singleton] at member
      rw [member]
      simp [invalidDiscrepancy]

theorem Reconciled.no_update_again (pass : Reconciled py clock rows ledger report next)
    {again : PassClock} {second : ReconciliationReport} {last : OrderLedger}
    (repeated : Reconciled py again rows next second last) :
    ∀ discrepancy ∈ second.discrepancies, discrepancy.code ≠ .statusMismatchUpdated := by
  intro discrepancy member
  rw [repeated.discrepancies, List.mem_append, List.mem_append] at member
  rcases member with (mapping | finding) | unknown
  · rw [mappingDiscrepancies_code mapping]
    decide
  · obtain ⟨order, present, found⟩ := List.mem_flatMap.mp finding
    exact findings_of_not_edge (fun _ row => pass.no_edge_again present row) discrepancy found
  · obtain ⟨entry, _, rfl⟩ := List.mem_map.mp unknown
    simp [unknownDiscrepancy]

theorem reconcile_sound (py : Python) (clock : PassClock) (rows : List RawOrder)
    (positions : PositionsResponse) (ledger : OrderLedger) :
    ∃ report next, reconcile py clock (.list rows) positions ledger = (.ok report, next) ∧
      next.orders.keys = ledger.orders.keys ∧
      (∀ order ∈ ledger.listOrders, ∀ brokerOrder,
        rowOf (passIndex py clock rows) order = some brokerOrder →
          Settlement report next order brokerOrder) ∧
      (∀ order ∈ ledger.listOrders, rowOf (passIndex py clock rows) order = none →
        next.order? order.internalOrderId = some order) ∧
      report.matchedOrders + report.missingInBroker =
        ledger.listOrders.countP (fun order => order.brokerOrderId.isSome) ∧
      report.statusMismatches =
        report.discrepancies.countP (withCode .statusMismatchUpdated) +
          report.discrepancies.countP (withCode .invalidTransition) ∧
      ∀ again positionsAgain, ∃ second,
        reconcile py again (.list rows) positionsAgain next = (.ok second, next) ∧
          ∀ discrepancy ∈ second.discrepancies, discrepancy.code ≠ .statusMismatchUpdated := by
  obtain ⟨report, next, result, pass⟩ := reconcile_spec py clock (.list rows) positions ledger
  refine ⟨report, next, result, pass.keys, fun _ member _ row => pass.settlement member row,
    ?_, ?_, ?_, ?_⟩
  · intro order member unmatched
    have stored := pass.order? order member
    simpa [reconciled, fetchBrokerOrders, unmatched] using stored
  · rw [pass.matchedOrders, pass.missingInBroker]
    exact matched_add_missing _ _
  · rw [pass.statusMismatches, pass.count_of_code (by decide) (by decide),
      pass.count_of_code (by decide) (by decide)]
    exact (flatMap_findings_count _ _ _).symm
  · intro again positionsAgain
    obtain ⟨second, last, secondResult, repeated⟩ :=
      reconcile_spec py again (.list rows) positionsAgain next
    have kept : last = next :=
      repeated.settled (fun _ member _ row => pass.no_edge_again member row)
    subst kept
    exact ⟨second, secondResult, pass.no_update_again repeated⟩

end TradingEngine.Reconciliation
