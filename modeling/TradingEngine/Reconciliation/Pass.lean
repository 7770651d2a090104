/-
What one reconciliation pass does.

`findings`, `matchedId` and `reconciled` say for one ledger order what the pass
reports, matches and leaves in the ledger.  The comparison loop does this for
every order, since the orders of a ledger have different ids and an update
changes one order only.
-/

import TradingEngine.Reconciliation.Service

namespace TradingEngine.Reconciliation

open Domain Broker Execution

variable {py : Python} {clock : PassClock} {index : BrokerIndex}

/-! ### One order -/

def rowOf (index : BrokerIndex) (order : InternalOrder) : Option InternalOrder :=
  order.brokerOrderId.bind index.get?

def matchedId (index : BrokerIndex) (order : InternalOrder) : Option String :=
  (rowOf index order).bind (fun _ => order.brokerOrderId)

def IsMissing (index : BrokerIndex) (order : InternalOrder) : Bool :=
  order.brokerOrderId.isSome && (rowOf index order).isNone

def IsMismatch (index : BrokerIndex) (order : InternalOrder) : Bool :=
  (rowOf index order).any (fun brokerOrder => order.status ≠ brokerOrder.status)

/-- How an order compares with the index. -/
inductive Comparison (index : BrokerIndex) (order : InternalOrder) : Prop where
  | unsubmitted (given : order.brokerOrderId = none)
  | missing (bid : String) (given : order.brokerOrderId = some bid)
      (absent : index.get? bid = none)
  | inSync (bid : String) (brokerOrder : InternalOrder) (given : order.brokerOrderId = some bid)
      (found : index.get? bid = some brokerOrder) (same : order.status = brokerOrder.status)
  | mismatch (bid : String) (brokerOrder : InternalOrder)
      (given : order.brokerOrderId = some bid) (found : index.get? bid = some brokerOrder)
      (different : order.status ≠ brokerOrder.status)

theorem comparison (index : BrokerIndex) (order : InternalOrder) : Comparison index order := by
  cases given : order.brokerOrderId with
  | none => exact .unsubmitted given
  | some bid =>
      cases found : index.get? bid with
      | none => exact .missing bid given found
      | some brokerOrder =>
          by_cases same : order.status = brokerOrder.status
          · exact .inSync bid brokerOrder given found same
          · exact .mismatch bid brokerOrder given found same

def mismatchFinding (py : Python) (order : InternalOrder) (bid : String)
    (brokerOrder : InternalOrder) : ReconciliationDiscrepancy :=
  if Edge order.status brokerOrder.status then updatedDiscrepancy py order bid brokerOrder
  else invalidDiscrepancy py order bid brokerOrder
    (transitionMessage py order.status brokerOrder.status)

def findings (py : Python) (index : BrokerIndex) (order : InternalOrder) :
    List ReconciliationDiscrepancy :=
  match order.brokerOrderId with
  | none => []
  | some bid =>
      match index.get? bid with
      | none => [missingDiscrepancy py order bid]
      | some brokerOrder =>
          if order.status = brokerOrder.status then []
          else [mismatchFinding py order bid brokerOrder]

def reconciled (clock : PassClock) (index : BrokerIndex) (order : InternalOrder) :
    InternalOrder :=
  match rowOf index order with
  | none => order
  | some brokerOrder =>
      if Edge order.status brokerOrder.status then
        OrderLedger.updated order brokerOrder.status (clock.updatedAt order.internalOrderId)
          none brokerOrder.rawBrokerResponse
      else order

theorem reconciled_internalOrderId (order : InternalOrder) :
    (reconciled clock index order).internalOrderId = order.internalOrderId := by
  unfold reconciled
  split
  · rfl
  · split_ifs <;> rfl

theorem reconciled_of_not_edge {order : InternalOrder}
    (settled : ∀ brokerOrder, rowOf index order = some brokerOrder →
      ¬ Edge order.status brokerOrder.status) : reconciled clock index order = order := by
  unfold reconciled
  cases row : rowOf index order with
  | none => rfl
  | some brokerOrder => exact if_neg (settled brokerOrder row)

/-! ### The comparison loop -/

/-- What the comparison of these orders does to the tally and the ledger. -/
structure Compared (py : Python) (clock : PassClock) (index : BrokerIndex)
    (orders : List InternalOrder) (tally after : Tally) (ledger next : OrderLedger) : Prop where
  matchedIds : after.matchedIds = tally.matchedIds ++ orders.filterMap (matchedId index)
  matchedCount :
    after.matchedCount = tally.matchedCount + (orders.filterMap (matchedId index)).length
  missingInBroker :
    after.missingInBroker = tally.missingInBroker + orders.countP (IsMissing index)
  statusMismatches :
    after.statusMismatches = tally.statusMismatches + orders.countP (IsMismatch index)
  discrepancies : after.discrepancies = tally.discrepancies ++ orders.flatMap (findings py index)
  order? : ∀ order ∈ orders,
    next.order? order.internalOrderId = some (reconciled clock index order)
  frame : ∀ id ∉ orders.map (fun order => order.internalOrderId),
    next.order? id = ledger.order? id
  keys : next.orders.keys = ledger.orders.keys
  settled : (∀ order ∈ orders, ∀ brokerOrder, rowOf index order = some brokerOrder →
    ¬ Edge order.status brokerOrder.status) → next = ledger

theorem compared_of_unchanged {order : InternalOrder} {tally after : Tally}
    {ledger : OrderLedger} (found : ledger.order? order.internalOrderId = some order)
    (ids : after.matchedIds = tally.matchedIds ++ (matchedId index order).toList)
    (count : after.matchedCount = tally.matchedCount + (matchedId index order).toList.length)
    (missing : after.missingInBroker =
      tally.missingInBroker + if IsMissing index order then 1 else 0)
    (mismatches : after.statusMismatches =
      tally.statusMismatches + if IsMismatch index order then 1 else 0)
    (discrepancies : after.discrepancies = tally.discrepancies ++ findings py index order)
    (illegal : ∀ brokerOrder, rowOf index order = some brokerOrder →
      ¬ Edge order.status brokerOrder.status) :
    Compared py clock index [order] tally after ledger ledger :=
  { matchedIds := by rw [ids]; cases h : matchedId index order <;> simp [h]
    matchedCount := by rw [count]; cases h : matchedId index order <;> simp [h]
    missingInBroker := by rw [missing, List.countP_singleton]
    statusMismatches := by rw [mismatches, List.countP_singleton]
    discrepancies := by rw [discrepancies, List.flatMap_singleton]
    order? := by
      intro other member
      cases List.mem_singleton.mp member
      rw [reconciled_of_not_edge illegal]
      exact found
    frame := fun _ _ => rfl
    keys := rfl
    settled := fun _ => rfl }

private theorem compareOrder_of_mismatch (py : Python) (clock : PassClock) {index : BrokerIndex}
    {order brokerOrder : InternalOrder} {ledger : OrderLedger} {bid : String}
    (found : ledger.order? order.internalOrderId = some order)
    (given : order.brokerOrderId = some bid) (row : index.get? bid = some brokerOrder)
    (different : order.status ≠ brokerOrder.status) (tally : Tally) :
    ∃ after next, compareOrder py clock index tally ledger order = (.ok after, next) ∧
      Compared py clock index [order] tally after ledger next := by
  have itsRow : rowOf index order = some brokerOrder := by simp [rowOf, given, row]
  rcases ledger.updateOrderStatus_cases py (clock.updatedAt order.internalOrderId)
      order.internalOrderId brokerOrder.status none brokerOrder.rawBrokerResponse with
    ⟨other, foundOther, edge, next, changed, result⟩ | ⟨exception, illegal, result⟩
  · cases found.symm.trans foundOther
    refine ⟨_, next, by
      simp only [compareOrder, given, row, if_neg different, result]; rfl, ?_⟩
    exact
      { matchedIds := by simp [matchedId, itsRow, given]
        matchedCount := by simp [matchedId, itsRow, given]
        missingInBroker := by simp [IsMissing, itsRow]
        statusMismatches := by simp [IsMismatch, itsRow, different]
        discrepancies := by simp [findings, given, row, different, mismatchFinding, edge]
        order? := by
          intro other member
          cases List.mem_singleton.mp member
          rw [changed.order?, if_pos rfl, reconciled, itsRow]
          exact congrArg some (if_pos edge).symm
        frame := by
          intro id absent
          rw [changed.order?, if_neg]
          simpa using absent
        keys := changed.keys
        settled := fun illegal =>
          absurd edge (illegal order (List.mem_singleton_self _) _ itsRow) }
  · obtain ⟨noEdge, rfl⟩ := illegal order found
    refine ⟨_, _, by
        simp only [compareOrder, given, row, if_neg different, result, transitionError]; rfl,
      compared_of_unchanged found ?_ ?_ ?_ ?_ ?_ ?_⟩
    · simp [matchedId, itsRow, given]
    · simp [matchedId, itsRow, given]
    · simp [IsMissing, itsRow]
    · simp [IsMismatch, itsRow, different]
    · simp [findings, given, row, different, mismatchFinding, noEdge]
    · intro other isRow
      cases itsRow.symm.trans isRow
      exact noEdge

theorem compareOrder_spec (py : Python) (clock : PassClock) (index : BrokerIndex)
    {order : InternalOrder} {ledger : OrderLedger}
    (found : ledger.order? order.internalOrderId = some order) (tally : Tally) :
    ∃ after next, compareOrder py clock index tally ledger order = (.ok after, next) ∧
      Compared py clock index [order] tally after ledger next := by
  cases comparison index order with
  | unsubmitted given =>
      have noRow : rowOf index order = none := by simp [rowOf, given]
      refine ⟨_, _, by simp only [compareOrder, given]; rfl,
        compared_of_unchanged found ?_ ?_ ?_ ?_ ?_ ?_⟩
      · simp [matchedId, noRow]
      · simp [matchedId, noRow]
      · simp [IsMissing, given]
      · simp [IsMismatch, noRow]
      · simp [findings, given]
      · simp [noRow]
  | missing bid given absent =>
      have noRow : rowOf index order = none := by simp [rowOf, given, absent]
      refine ⟨_, _, by simp only [compareOrder, given, absent]; rfl,
        compared_of_unchanged found ?_ ?_ ?_ ?_ ?_ ?_⟩
      · simp [matchedId, noRow]
      · simp [matchedId, noRow]
      · simp [IsMissing, given, noRow]
      · simp [IsMismatch, noRow]
      · simp [findings, given, absent]
      · simp [noRow]
  | inSync bid brokerOrder given row same =>
      have itsRow : rowOf index order = some brokerOrder := by simp [rowOf, given, row]
      refine ⟨_, _, by simp only [compareOrder, given, row, if_pos same]; rfl,
        compared_of_unchanged found ?_ ?_ ?_ ?_ ?_ ?_⟩
      · simp [matchedId, itsRow, given]
      · simp [matchedId, itsRow, given]
      · simp [IsMissing, itsRow]
      · simp [IsMismatch, itsRow, same]
      · simp [findings, given, row, same]
      · intro other isRow
        cases itsRow.symm.trans isRow
        rw [← same]
        exact not_edge_self _
  | mismatch bid brokerOrder given row different =>
      exact compareOrder_of_mismatch py clock found given row different tally

theorem Compared.cons {order : InternalOrder} {rest : List InternalOrder}
    {tally middle after : Tally} {ledger between next : OrderLedger}
    (distinct : order.internalOrderId ∉ rest.map (fun order => order.internalOrderId))
    (head : Compared py clock index [order] tally middle ledger between)
    (tail : Compared py clock index rest middle after between next) :
    Compared py clock index (order :: rest) tally after ledger next :=
  { matchedIds := by
      rw [tail.matchedIds, head.matchedIds, List.append_assoc, ← List.filterMap_append]
      rfl
    matchedCount := by
      rw [tail.matchedCount, head.matchedCount, Nat.add_assoc, ← List.length_append,
        ← List.filterMap_append]
      rfl
    missingInBroker := by
      rw [tail.missingInBroker, head.missingInBroker, Nat.add_assoc, ← List.countP_append]
      rfl
    statusMismatches := by
      rw [tail.statusMismatches, head.statusMismatches, Nat.add_assoc, ← List.countP_append]
      rfl
    discrepancies := by
      rw [tail.discrepancies, head.discrepancies, List.append_assoc, ← List.flatMap_append]
      rfl
    order? := by
      intro other member
      rcases List.mem_cons.mp member with same | later
      · rw [same, tail.frame _ distinct]
        exact head.order? order (List.mem_singleton_self _)
      · exact tail.order? other later
    frame := by
      intro id absent
      rw [List.map_cons, List.mem_cons, not_or] at absent
      rw [tail.frame id absent.2, head.frame id]
      simpa using absent.1
    keys := tail.keys.trans head.keys
    settled := by
      intro illegal
      rw [tail.settled (fun other member => illegal other (List.mem_cons_of_mem _ member))]
      apply head.settled
      intro other member
      cases List.mem_singleton.mp member
      exact illegal order List.mem_cons_self }

theorem compareOrders_spec {orders : List InternalOrder}
    (distinct : (orders.map (fun order => order.internalOrderId)).Nodup) {ledger : OrderLedger}
    (found : ∀ order ∈ orders, ledger.order? order.internalOrderId = some order)
    (tally : Tally) :
    ∃ after next, compareOrders py clock index tally ledger orders = (.ok after, next) ∧
      Compared py clock index orders tally after ledger next := by
  induction orders generalizing tally ledger with
  | nil =>
      refine ⟨tally, ledger, rfl, ?_⟩
      exact
        { matchedIds := by simp
          matchedCount := rfl
          missingInBroker := rfl
          statusMismatches := rfl
          discrepancies := by simp
          order? := fun _ member => nomatch member
          frame := fun _ _ => rfl
          keys := rfl
          settled := fun _ => rfl }
  | cons order rest ih =>
      obtain ⟨absent, restDistinct⟩ := List.nodup_cons.mp distinct
      obtain ⟨middle, between, first, head⟩ :=
        compareOrder_spec py clock index (found order List.mem_cons_self) tally
      have laterFound : ∀ other ∈ rest, between.order? other.internalOrderId = some other := by
        intro other member
        rw [head.frame]
        · exact found other (List.mem_cons_of_mem _ member)
        · intro same
          rw [List.map_singleton, List.mem_singleton] at same
          exact absent (List.mem_map.mpr ⟨other, member, same⟩)
      obtain ⟨after, next, others, tail⟩ := ih restDistinct laterFound middle
      refine ⟨after, next, ?_, head.cons absent tail⟩
      rw [compareOrders, first]
      exact others

/-! ### Mapped rows and the index -/

variable {rows : List RawOrder}

theorem mem_mapRows_iff {row : RawOrder × Except MappingError InternalOrder} :
    row ∈ mapRows py clock rows ↔ ∃ place raw, rows[place]? = some raw ∧
      row = (raw, mapZerodhaOrder py (clock.generatedId place) raw) := by
  unfold mapRows
  rw [List.mem_mapIdx]
  constructor
  · rintro ⟨place, within, made⟩
    exact ⟨place, rows[place], List.getElem?_eq_getElem within, made.symm⟩
  · rintro ⟨place, raw, found, rfl⟩
    obtain ⟨within, rfl⟩ := List.getElem?_eq_some_iff.mp found
    exact ⟨place, within, rfl⟩

theorem mem_mapRows_of_mem_brokerOrders {row : InternalOrder}
    (member : row ∈ brokerOrders py clock rows) :
    ∃ raw, (raw, Except.ok row) ∈ mapRows py clock rows := by
  obtain ⟨⟨raw, result⟩, present, mapped⟩ := List.mem_filterMap.mp member
  cases result with
  | error exception => cases mapped
  | ok order =>
      cases mapped
      exact ⟨raw, present⟩

theorem status_mem_of_mem_brokerOrders {row : InternalOrder}
    (member : row ∈ brokerOrders py clock rows) : row.status ∈ reportedStatuses := by
  obtain ⟨raw, mapped⟩ := mem_mapRows_of_mem_brokerOrders member
  obtain ⟨place, own, _, same⟩ := mem_mapRows_iff.mp mapped
  exact status_mem_of_mapZerodhaOrder (congrArg Prod.snd same).symm

theorem get?_brokerById (orders : List InternalOrder) (bid : String) :
    (brokerById orders).get? bid =
      (orders.filter (fun order => order.brokerOrderId = some bid)).getLast? := by
  induction orders using List.reverseRecOn with
  | nil => rfl
  | append_singleton earlier order ih =>
      rw [brokerById, List.foldl_append, ← brokerById, List.filter_append]
      cases given : order.brokerOrderId with
      | none => simpa [given] using ih
      | some own =>
          simp only [List.foldl_cons, List.foldl_nil, given]
          rw [OrderedDict.get?_insert]
          by_cases same : bid = own
          · simp [same, given]
          · rw [if_neg same, ih]
            simp [given, Ne.symm same]

theorem mem_of_get?_brokerById {orders : List InternalOrder} {bid : String}
    {order : InternalOrder} (found : (brokerById orders).get? bid = some order) :
    order ∈ orders ∧ order.brokerOrderId = some bid := by
  rw [get?_brokerById] at found
  have member := List.mem_of_getLast? found
  simpa using member

/-! ### The pass -/

def passIndex (py : Python) (clock : PassClock) (rows : List RawOrder) : BrokerIndex :=
  brokerById (brokerOrders py clock rows)

/-- What a pass over these rows reports and leaves behind. -/
structure Reconciled (py : Python) (clock : PassClock) (rows : List RawOrder)
    (ledger : OrderLedger) (report : ReconciliationReport) (next : OrderLedger) : Prop where
  matchedOrders : report.matchedOrders =
    (ledger.listOrders.filterMap (matchedId (passIndex py clock rows))).length
  missingInBroker : report.missingInBroker =
    ledger.listOrders.countP (IsMissing (passIndex py clock rows))
  statusMismatches : report.statusMismatches =
    ledger.listOrders.countP (IsMismatch (passIndex py clock rows))
  discrepancies : report.discrepancies =
    mappingDiscrepancies py clock rows ++
      ledger.listOrders.flatMap (findings py (passIndex py clock rows)) ++
      (unknownEntries (passIndex py clock rows)
        (ledger.listOrders.filterMap (matchedId (passIndex py clock rows)))).map
          (fun entry => unknownDiscrepancy py entry.1 entry.2)
  order? : ∀ order ∈ ledger.listOrders, next.order? order.internalOrderId =
    some (reconciled clock (passIndex py clock rows) order)
  keys : next.orders.keys = ledger.orders.keys
  settled : (∀ order ∈ ledger.listOrders, ∀ brokerOrder,
    rowOf (passIndex py clock rows) order = some brokerOrder →
      ¬ Edge order.status brokerOrder.status) → next = ledger

theorem listOrders_ids (ledger : OrderLedger) :
    ledger.listOrders.map (fun order => order.internalOrderId) = ledger.orders.keys := by
  unfold OrderLedger.listOrders OrderedDict.keys
  rw [List.map_map]
  exact List.map_congr_left (fun entry member => ledger.keyed entry member)

theorem listOrders_distinct (ledger : OrderLedger) :
    (ledger.listOrders.map (fun order => order.internalOrderId)).Nodup := by
  rw [listOrders_ids]
  exact ledger.orders.distinct

theorem compareOrders_listOrders (py : Python) (clock : PassClock) (index : BrokerIndex)
    (ledger : OrderLedger) (tally : Tally) :
    ∃ after next, compareOrders py clock index tally ledger ledger.listOrders =
        (.ok after, next) ∧
      Compared py clock index ledger.listOrders tally after ledger next :=
  compareOrders_spec (listOrders_distinct ledger)
    (fun _ member => OrderLedger.mem_listOrders_iff.mp member) tally

theorem reconcile_spec (py : Python) (clock : PassClock) (orders : OrdersResponse)
    (positions : PositionsResponse) (ledger : OrderLedger) :
    ∃ report next, reconcile py clock orders positions ledger = (.ok report, next) ∧
      Reconciled py clock (fetchBrokerOrders orders) ledger report next := by
  obtain ⟨after, next, result, compared⟩ := compareOrders_listOrders py clock
    (passIndex py clock (fetchBrokerOrders orders)) ledger
    { matchedIds := []
      matchedCount := 0
      missingInBroker := 0
      statusMismatches := 0
      discrepancies := mappingDiscrepancies py clock (fetchBrokerOrders orders) }
  refine ⟨_, next, by simp only [reconcile]; rw [← passIndex, result], ?_⟩
  exact
    { matchedOrders := by simpa using compared.matchedCount
      missingInBroker := by simpa using compared.missingInBroker
      statusMismatches := by simpa using compared.statusMismatches
      discrepancies := by simp only [compared.discrepancies, compared.matchedIds, List.nil_append]
      order? := compared.order?
      keys := compared.keys
      settled := compared.settled }

end TradingEngine.Reconciliation
