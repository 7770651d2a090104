/-
The reconciliation of the order ledger with the orders at the broker.

A pass maps the rows of the broker, indexes them by broker id, compares every
ledger order with the row of its id and reports the rows that no ledger order has.
-/

import TradingEngine.Broker.Mappers
import TradingEngine.Execution.Ledger

namespace TradingEngine.Reconciliation

open Domain Broker Execution

/-! ### Reports -/

inductive Severity where
  | high
  | medium
  | low
deriving DecidableEq

inductive DiscrepancyCode where
  | missingInBroker
  | unknownBrokerOrder
  | statusMismatchUpdated
  | invalidTransition
  | mappingError
deriving DecidableEq

structure ReconciliationDiscrepancy where
  code : DiscrepancyCode
  message : String
  severity : Severity
  internalOrderId : Option String
  brokerOrderId : RawValue
  symbol : RawValue
  expectedStatus : Option OrderStatus
  actualStatus : Option OrderStatus
deriving DecidableEq

structure ReconciliationReport where
  reconciledAt : Datetime
  brokerOrderCount : ℕ
  ledgerOrderCount : ℕ
  brokerPositionCount : ℕ
  matchedOrders : ℕ
  missingInBroker : ℕ
  unknownBrokerOrders : ℕ
  statusMismatches : ℕ
  discrepancies : List ReconciliationDiscrepancy

def ReconciliationReport.success (report : ReconciliationReport) : Bool :=
  ¬ report.discrepancies.any (fun discrepancy => discrepancy.severity = .high)

/-! ### Broker calls -/

/-- What `get_orders` does. -/
inductive OrdersResponse where
  | list (rows : List RawOrder)
  | other
  | raised

/-- What `get_positions` does; `net` is missing when the dict has no such key. -/
inductive PositionsResponse where
  | dict (net : Option (List RawPosition))
  | list (rows : List RawPosition)
  | other
  | raised

/-- The clock and the id generator during a pass: the time of the update of an order is
given by its id and the generated id of a mapped row by its place. -/
structure PassClock where
  reconciledAt : Datetime
  fetchedAt : Datetime
  updatedAt : String → Datetime
  generatedId : ℕ → String

def fetchBrokerOrders : OrdersResponse → List RawOrder
  | .list rows => rows
  | .other => []
  | .raised => []

def reconcilePositions (py : Python) (clock : PassClock) (response : PositionsResponse) :
    List Domain.Position :=
  let rows := match response with
    | .dict net => net.getD []
    | .list rows => rows
    | .other => []
    | .raised => []
  rows.filterMap (fun raw => (mapZerodhaPosition py clock.fetchedAt raw).toOption)

/-! ### Mapping and index -/

def mapRows (py : Python) (clock : PassClock) (rows : List RawOrder) :
    List (RawOrder × Except MappingError InternalOrder) :=
  rows.mapIdx (fun place raw => (raw, mapZerodhaOrder py (clock.generatedId place) raw))

def brokerOrders (py : Python) (clock : PassClock) (rows : List RawOrder) :
    List InternalOrder :=
  (mapRows py clock rows).filterMap (fun row => row.2.toOption)

def mappingDiscrepancy (py : Python) (raw : RawOrder) (exception : MappingError) :
    ReconciliationDiscrepancy :=
  { code := .mappingError
    message := mappingErrorText py exception
    severity := .medium
    internalOrderId := none
    brokerOrderId := raw.orderId.getD .null
    symbol := raw.tradingsymbol.getD .null
    expectedStatus := none
    actualStatus := none }

def mappingDiscrepancies (py : Python) (clock : PassClock) (rows : List RawOrder) :
    List ReconciliationDiscrepancy :=
  (mapRows py clock rows).filterMap (fun row =>
    match row.2 with
    | .error exception => some (mappingDiscrepancy py row.1 exception)
    | .ok _ => none)

abbrev BrokerIndex := OrderedDict String InternalOrder

/-- A later order replaces an earlier one with the same id. -/
def brokerById (orders : List InternalOrder) : BrokerIndex :=
  orders.foldl (fun index order =>
    match order.brokerOrderId with
    | none => index
    | some bid => index.insert bid order) OrderedDict.empty

/-! ### Comparison -/

def missingDiscrepancy (py : Python) (order : InternalOrder) (bid : String) :
    ReconciliationDiscrepancy :=
  { code := .missingInBroker
    message := "Ledger order " ++ py.repr order.internalOrderId ++ " (broker_order_id=" ++
      py.repr bid ++ ") not found in broker response."
    severity := .high
    internalOrderId := some order.internalOrderId
    brokerOrderId := .text bid
    symbol := .text order.symbol
    expectedStatus := some order.status
    actualStatus := none }

def updatedDiscrepancy (py : Python) (order : InternalOrder) (bid : String)
    (brokerOrder : InternalOrder) : ReconciliationDiscrepancy :=
  { code := .statusMismatchUpdated
    message := "Order " ++ py.repr order.internalOrderId ++ " status updated " ++
      order.status.repr ++ " → " ++ brokerOrder.status.repr ++ "."
    severity := .low
    internalOrderId := some order.internalOrderId
    brokerOrderId := .text bid
    symbol := .text order.symbol
    expectedStatus := some order.status
    actualStatus := some brokerOrder.status }

def invalidDiscrepancy (py : Python) (order : InternalOrder) (bid : String)
    (brokerOrder : InternalOrder) (exception : String) : ReconciliationDiscrepancy :=
  { code := .invalidTransition
    message := "Cannot transition order " ++ py.repr order.internalOrderId ++ " from " ++
      order.status.repr ++ " to " ++ brokerOrder.status.repr ++ ": " ++ exception
    severity := .high
    internalOrderId := some order.internalOrderId
    brokerOrderId := .text bid
    symbol := .text order.symbol
    expectedStatus := some order.status
    actualStatus := some brokerOrder.status }

/-- What the comparison loop counts. -/
structure Tally where
  matchedIds : List String
  matchedCount : ℕ
  missingInBroker : ℕ
  statusMismatches : ℕ
  discrepancies : List ReconciliationDiscrepancy

def compareOrder (py : Python) (clock : PassClock) (index : BrokerIndex) (tally : Tally)
    (ledger : OrderLedger) (order : InternalOrder) : Except EngineError Tally × OrderLedger :=
  match order.brokerOrderId with
  | none => (.ok tally, ledger)
  | some bid =>
      match index.get? bid with
      | none =>
          (.ok { tally with
            missingInBroker := tally.missingInBroker + 1
            discrepancies := tally.discrepancies ++ [missingDiscrepancy py order bid] }, ledger)
      | some brokerOrder =>
          let tally := { tally with
            matchedIds := tally.matchedIds ++ [bid]
            matchedCount := tally.matchedCount + 1 }
          if order.status = brokerOrder.status then (.ok tally, ledger)
          else
            let tally := { tally with statusMismatches := tally.statusMismatches + 1 }
            match ledger.updateOrderStatus py (clock.updatedAt order.internalOrderId)
                order.internalOrderId brokerOrder.status none brokerOrder.rawBrokerResponse with
            | (.ok _, ledger) =>
                (.ok { tally with
                  discrepancies := tally.discrepancies ++
                    [updatedDiscrepancy py order bid brokerOrder] }, ledger)
            | (.error (.orderStateTransition exception), ledger) =>
                (.ok { tally with
                  discrepancies := tally.discrepancies ++
                    [invalidDiscrepancy py order bid brokerOrder exception] }, ledger)
            | (.error exception, ledger) => (.error exception, ledger)

def compareOrders (py : Python) (clock : PassClock) (index : BrokerIndex) :
    Tally → OrderLedger → List InternalOrder → Except EngineError Tally × OrderLedger
  | tally, ledger, [] => (.ok tally, ledger)
  | tally, ledger, order :: rest =>
      match compareOrder py clock index tally ledger order with
      | (.error exception, ledger) => (.error exception, ledger)
      | (.ok tally, ledger) => compareOrders py clock index tally ledger rest

/-! ### Unknown orders and report -/

def unknownDiscrepancy (py : Python) (bid : String) (brokerOrder : InternalOrder) :
    ReconciliationDiscrepancy :=
  { code := .unknownBrokerOrder
    message := "Broker order " ++ py.repr bid ++ " (" ++ brokerOrder.symbol ++
      ") has no matching ledger entry."
    severity := .medium
    internalOrderId := none
    brokerOrderId := .text bid
    symbol := .text brokerOrder.symbol
    expectedStatus := none
    actualStatus := some brokerOrder.status }

def unknownEntries (index : BrokerIndex) (matchedIds : List String) :
    List (String × InternalOrder) :=
  index.entries.filter (fun entry => entry.1 ∉ matchedIds)

/-- `reconcile`, which is `reconcile_orders`. -/
def reconcile (py : Python) (clock : PassClock) (orders : OrdersResponse)
    (positions : PositionsResponse) (ledger : OrderLedger) :
    Except EngineError ReconciliationReport × OrderLedger :=
  let rows := fetchBrokerOrders orders
  let mapped := brokerOrders py clock rows
  let index := brokerById mapped
  let ledgerOrders := ledger.listOrders
  let start : Tally :=
    { matchedIds := []
      matchedCount := 0
      missingInBroker := 0
      statusMismatches := 0
      discrepancies := mappingDiscrepancies py clock rows }
  match compareOrders py clock index start ledger ledgerOrders with
  | (.error exception, ledger) => (.error exception, ledger)
  | (.ok tally, ledger) =>
      let unknown := unknownEntries index tally.matchedIds
      (.ok
        { reconciledAt := clock.reconciledAt
          brokerOrderCount := mapped.length
          ledgerOrderCount := ledgerOrders.length
          brokerPositionCount := (reconcilePositions py clock positions).length
          matchedOrders := tally.matchedCount
          missingInBroker := tally.missingInBroker
          unknownBrokerOrders := unknown.length
          statusMismatches := tally.statusMismatches
          discrepancies := tally.discrepancies ++
            unknown.map (fun entry => unknownDiscrepancy py entry.1 entry.2) }, ledger)

end TradingEngine.Reconciliation
