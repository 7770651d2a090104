/-
Whether repeated passes bring an order to the final status at the broker.

Every pass with the same rows offers the order the same status.  It takes it over
when the transition table has an edge to it and stays where it is otherwise, so
the table alone decides.
-/

import TradingEngine.General.EventRun
import TradingEngine.Reconciliation.Soundness

namespace TradingEngine.Reconciliation

open Domain Broker Execution

variable {py : Python} {clock : PassClock} {rows : List RawOrder}
variable {ledger next : OrderLedger} {report : ReconciliationReport}

/-- A row that is mapped to an order with this broker id and status. -/
def RowReports (py : Python) (raw : RawOrder) (bid : String) (status : OrderStatus) : Prop :=
  ∃ id order, mapZerodhaOrder py id raw = .ok order ∧ order.brokerOrderId = some bid ∧
    order.status = status

def ReportedOnce (py : Python) (rows : List RawOrder) (bid : String) (status : OrderStatus) :
    Prop :=
  ∃ before raw after, rows = before ++ raw :: after ∧ RowReports py raw bid status ∧
    ∀ other ∈ before ++ after, ∀ otherStatus, ¬ RowReports py other bid otherStatus

private theorem filtered_of_not_reported {others : List RawOrder} {bid : String}
    (absent : ∀ other ∈ others, ∀ status, ¬ RowReports py other bid status) :
    (others.filterMap (fun raw => (mapZerodhaOrder py "" raw).toOption)).filter
      (fun order => order.brokerOrderId = some bid) = [] := by
  apply List.filter_eq_nil_iff.mpr
  intro order member given
  obtain ⟨raw, present, mapped⟩ := List.mem_filterMap.mp member
  cases result : mapZerodhaOrder py "" raw with
  | error exception =>
      rw [result] at mapped
      cases mapped
  | ok found =>
      rw [result] at mapped
      cases mapped
      exact absent raw present order.status ⟨"", order, result, by simpa using given, rfl⟩

theorem reportedStatus_of_once {bid : String} {status : OrderStatus}
    (once : ReportedOnce py rows bid status) : reportedStatus py rows bid = some status := by
  obtain ⟨before, raw, after, rfl, ⟨id, order, mapped, given, rfl⟩, others⟩ := once
  have noEarlier := filtered_of_not_reported
    (fun other member => others other (List.mem_append_left _ member))
  have noLater := filtered_of_not_reported
    (fun other member => others other (List.mem_append_right _ member))
  have renamed : (mapZerodhaOrder py "" raw).toOption = some (withId "" order) := by
    rw [mapZerodhaOrder_withId py id, mapped]
    rfl
  have ownRow : (raw :: after).filterMap (fun raw => (mapZerodhaOrder py "" raw).toOption) =
      withId "" order :: after.filterMap (fun raw => (mapZerodhaOrder py "" raw).toOption) :=
    List.filterMap_cons_some renamed
  have ownId : (withId "" order).brokerOrderId = some bid := given
  unfold reportedStatus
  rw [List.filterMap_append, List.filter_append, noEarlier, ownRow,
    List.filter_cons_of_pos (by simpa using ownId), noLater]
  rfl

/-- The ledgers that passes with the same rows go through. -/
def afterPass (py : Python) (rows : List RawOrder) (ledger : OrderLedger)
    (pass : PassClock × PositionsResponse) : OrderLedger :=
  (reconcile py pass.1 (.list rows) pass.2 ledger).2

theorem afterPass_order (ledger : OrderLedger) (pass : PassClock × PositionsResponse)
    {order : InternalOrder} {bid : String} {reported : OrderStatus}
    (stored : ledger.order? order.internalOrderId = some order)
    (given : order.brokerOrderId = some bid)
    (once : reportedStatus py rows bid = some reported) :
    ∃ after, (afterPass py rows ledger pass).order? order.internalOrderId = some after ∧
      after.internalOrderId = order.internalOrderId ∧ after.brokerOrderId = some bid ∧
      after.status = if Edge order.status reported then reported else order.status := by
  obtain ⟨report, next, result, changed⟩ :=
    reconcile_spec py pass.1 (.list rows) pass.2 ledger
  have found := changed.order? order (OrderLedger.mem_listOrders_iff.mpr stored)
  refine ⟨_, by rw [afterPass, result]; exact found, reconciled_internalOrderId order,
    (reconciled_brokerOrderId order).trans given, ?_⟩
  rw [← get?_passIndex_status py pass.1] at once
  obtain ⟨brokerOrder, row, rfl⟩ := Option.map_eq_some_iff.mp once
  have itsRow : rowOf (passIndex py pass.1 rows) order = some brokerOrder := by
    simp [rowOf, given, row]
  simp only [fetchBrokerOrders, reconciled, itsRow]
  split_ifs <;> rfl

theorem run_afterPass (passes : List (PassClock × PositionsResponse))
    {ledger : OrderLedger} {order : InternalOrder} {bid : String} {reported : OrderStatus}
    (stored : ledger.order? order.internalOrderId = some order)
    (given : order.brokerOrderId = some bid)
    (once : reportedStatus py rows bid = some reported)
    (settled : ¬ Edge order.status reported) :
    ∃ after, (EventRun.run (afterPass py rows) ledger passes).order? order.internalOrderId =
      some after ∧ after.status = order.status := by
  induction passes generalizing ledger order with
  | nil => exact ⟨order, stored, rfl⟩
  | cons pass rest ih =>
      obtain ⟨after, storedAfter, sameId, givenAfter, status⟩ :=
        afterPass_order ledger pass stored given once
      rw [if_neg settled] at status
      rw [← sameId] at storedAfter
      obtain ⟨last, storedLast, statusLast⟩ :=
        ih storedAfter givenAfter (by rw [status]; exact settled)
      rw [sameId] at storedLast
      exact ⟨last, storedLast, statusLast.trans status⟩

/-- From some number of passes on, the ledger order has the status. -/
def Converges (py : Python) (rows : List RawOrder) (ledger : OrderLedger) (id : String)
    (status : OrderStatus) : Prop :=
  ∃ bound, ∀ passes : List (PassClock × PositionsResponse), bound ≤ passes.length →
    ∃ order, (EventRun.run (afterPass py rows) ledger passes).order? id = some order ∧
      order.status = status

def somePass : PassClock × PositionsResponse :=
  ({ reconciledAt := 0
     fetchedAt := 0
     updatedAt := fun _ => 0
     generatedId := fun _ => "" }, .raised)

theorem not_converges_of_not_edge {order : InternalOrder} {bid : String}
    {reported : OrderStatus} (stored : ledger.order? order.internalOrderId = some order)
    (given : order.brokerOrderId = some bid) (different : order.status ≠ reported)
    (once : reportedStatus py rows bid = some reported) (noEdge : ¬ Edge order.status reported) :
    ¬ Converges py rows ledger order.internalOrderId reported := by
  rintro ⟨bound, converges⟩
  obtain ⟨after, found, status⟩ := converges (List.replicate bound somePass) (by simp)
  obtain ⟨kept, foundKept, statusKept⟩ :=
    run_afterPass (List.replicate bound somePass) stored given once noEdge
  cases found.symm.trans foundKept
  exact different (statusKept.symm.trans status)

theorem converges_of_edge {order : InternalOrder} {bid : String} {reported : OrderStatus}
    (stored : ledger.order? order.internalOrderId = some order)
    (given : order.brokerOrderId = some bid) (final : isTerminal reported = true)
    (once : reportedStatus py rows bid = some reported) (edge : Edge order.status reported) :
    Converges py rows ledger order.internalOrderId reported := by
  refine ⟨1, ?_⟩
  intro passes enough
  cases passes with
  | nil => simp at enough
  | cons pass rest =>
      obtain ⟨after, storedAfter, sameId, givenAfter, status⟩ :=
        afterPass_order ledger pass stored given once
      rw [if_pos edge] at status
      rw [← sameId] at storedAfter
      obtain ⟨last, storedLast, statusLast⟩ :=
        run_afterPass rest storedAfter givenAfter once
          (by rw [status]; exact not_edge_of_isTerminal final reported)
      rw [sameId] at storedLast
      exact ⟨last, storedLast, statusLast.trans status⟩

/-- The statuses of a submitted order that is not final yet. -/
def awaiting : List OrderStatus :=
  [.submitted, .opened, .partiallyFilled, .cancelRequested, .unknown, .reconciled]

theorem reconcile_converges_iff (py : Python) (rows : List RawOrder) (ledger : OrderLedger)
    (order : InternalOrder) (bid : String) (reported : OrderStatus)
    (stored : ledger.order? order.internalOrderId = some order)
    (given : order.brokerOrderId = some bid) (pending : order.status ∈ awaiting)
    (final : reported ∈ [OrderStatus.filled, .cancelled, .rejected])
    (once : ReportedOnce py rows bid reported) :
    Converges py rows ledger order.internalOrderId reported ↔ Edge order.status reported := by
  have status := reportedStatus_of_once once
  have terminal : isTerminal reported = true := by
    have all : ∀ status ∈ [OrderStatus.filled, .cancelled, .rejected],
        isTerminal status = true := by
      decide
    exact all reported final
  have different : order.status ≠ reported := by
    intro same
    have apart : ∀ status ∈ awaiting, isTerminal status = false := by
      decide
    rw [← same, apart order.status pending] at terminal
    cases terminal
  constructor
  · intro converges
    by_contra noEdge
    exact not_converges_of_not_edge stored given different status noEdge converges
  · exact converges_of_edge stored given terminal status

def sampleOrder (status : OrderStatus) : InternalOrder :=
  { internalOrderId := "ord_1"
    brokerOrderId := some "B1"
    strategyId := "ma_pullback"
    symbol := "INFY"
    exchange := .nse
    side := .buy
    quantity := 10
    orderType := .market
    product := .cnc
    price := none
    triggerPrice := none
    timeInForce := .day
    status := status
    riskDecisionId := none
    createdAt := 0
    updatedAt := 0
    rawBrokerResponse := none
    shape := by decide }

def sampleRow (status : String) : RawOrder :=
  { orderId := .text "B1"
    tradingsymbol := .text "INFY"
    exchange := .text "NSE"
    transactionType := .text "BUY"
    orderType := .text "MARKET"
    product := .text "CNC"
    quantity := .number 10 "10"
    status := .text status
    orderTimestamp := .moment 0
    exchangeUpdateTimestamp := .absent
    price := .absent
    triggerPrice := .absent
    validity := .text "DAY"
    tag := .text "ma_pullback"
    strategyId := .absent }

def sampleLedger (status : OrderStatus) : OrderLedger :=
  OrderLedger.empty.addOrder (sampleOrder status)

theorem reportedOnce_sampleRow {text : String} {reported : OrderStatus}
    (reports : RowReports Python.ascii (sampleRow text) "B1" reported) :
    ReportedOnce Python.ascii [sampleRow text] "B1" reported :=
  ⟨[], sampleRow text, [], rfl, reports, fun _ member => nomatch member⟩

theorem open_order_converges :
    Converges Python.ascii [sampleRow "CANCELLED"] (sampleLedger .opened) "ord_1" .cancelled ↔
      Edge .opened .cancelled :=
  reconcile_converges_iff Python.ascii [sampleRow "CANCELLED"] (sampleLedger .opened)
    (sampleOrder .opened) "B1" .cancelled rfl rfl (by decide) (by decide)
    (reportedOnce_sampleRow ⟨"", _, rfl, rfl, rfl⟩)

theorem unknown_order_never_filled :
    (sampleLedger .unknown).order? "ord_1" = some (sampleOrder .unknown) ∧
      (sampleOrder .unknown).brokerOrderId = some "B1" ∧
      (sampleOrder .unknown).status ∈ awaiting ∧
      ReportedOnce Python.ascii [sampleRow "COMPLETE"] "B1" .filled ∧
      ¬ Converges Python.ascii [sampleRow "COMPLETE"] (sampleLedger .unknown) "ord_1" .filled := by
  have once : ReportedOnce Python.ascii [sampleRow "COMPLETE"] "B1" .filled :=
    reportedOnce_sampleRow ⟨"", _, rfl, rfl, rfl⟩
  refine ⟨rfl, rfl, by decide, once, ?_⟩
  have stored : (sampleLedger .unknown).order? (sampleOrder .unknown).internalOrderId =
      some (sampleOrder .unknown) :=
    rfl
  exact not_converges_of_not_edge stored rfl (by decide) (reportedStatus_of_once once) (by decide)

end TradingEngine.Reconciliation
