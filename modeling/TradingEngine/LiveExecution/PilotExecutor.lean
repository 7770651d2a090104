/-
The executor of live pilot orders.

`execute` asks the risk engine when there is one and a snapshot is given, then the
approval gate, then the broker, and records the approval in the audit log.
-/

import TradingEngine.Broker.ZerodhaClient

namespace TradingEngine.LiveExecution

open Domain Broker

structure PilotOrderResult where
  success : Bool
  brokerOrderId : Option String
  approvalStatus : Option ApprovalStatus
  error : Option String
deriving DecidableEq

inductive AuditRecord where
  | request (request : ApprovalRequest)
  | decision (decision : ApprovalDecision)
deriving DecidableEq

/-- `auditLog` is `none` without an audit logger. -/
structure LiveOrderPilotExecutor (ρ : Type) where
  broker : ZerodhaBroker
  config : LivePilotConfig
  gate : ApprovalGate
  guard : LiveExecutionSafetyGuard
  auditLog : Option (List AuditRecord)
  riskState : ρ

/-- What the clock and the id generator give during a call. -/
structure CallClock where
  ts : Datetime
  requestedAt : Datetime
  decidedAt : Datetime
  approvalId : String

/-- `str(exc)`. -/
def errorText (py : Python) : EngineError → String
  | .safety message => message
  | .brokerConnection message => message
  | .manualApprovalRequired message _ => message
  | .orderStateTransition message => message
  | .orderNotFound message => message
  | .keyError message => py.repr message
  | .valueError message => message
  | .raised exception => py.excText exception
  | .kite message => message
  | .orderValidation message => message
  | .zeroDivision message => message

def riskBlocked (decision : RiskDecision) : PilotOrderResult :=
  { success := false
    brokerOrderId := none
    approvalStatus := some .autoRejected
    error := some ("Risk blocked: " ++ decision.reasonCode.text ++ " — " ++
      decision.reasonMessage) }

namespace LiveOrderPilotExecutor

variable {ρ : Type}

/-- The audit records of an approval; a request that the gate does not hold is skipped. -/
def audited (executor : LiveOrderPilotExecutor ρ) (decision : ApprovalDecision) :
    Option (List AuditRecord) :=
  executor.auditLog.map (fun records =>
    records ++ ((executor.gate.requests.get? decision.approvalId).map AuditRecord.request).toList ++
      [.decision decision])

/-- Steps 2 and 3 of `execute`, after the risk check. -/
def executeChecked (py : Python) (kite : KiteClient) (clock : CallClock)
    (executor : LiveOrderPilotExecutor ρ) (intent : OrderIntent) (estimatedPrice : Option ℚ)
    (risk : Option RiskDecision) :
    Except EngineError PilotOrderResult × LiveOrderPilotExecutor ρ :=
  match executor.gate.requireApproval clock.requestedAt clock.decidedAt clock.approvalId intent
      estimatedPrice none with
  | (.error (.safety message), gate) =>
      (.ok
        { success := false
          brokerOrderId := none
          approvalStatus := some .autoRejected
          error := some message }, { executor with gate := gate })
  | (.error (.manualApprovalRequired _ approvalId), gate) =>
      (.ok
        { success := false
          brokerOrderId := none
          approvalStatus := some .pending
          error := some ("Manual approval required: approval_id=" ++ approvalId) },
        { executor with gate := gate })
  | (.error exception, gate) => (.error exception, { executor with gate := gate })
  | (.ok decision, gate) =>
      let executor := { executor with gate := gate }
      let executor := { executor with auditLog := executor.audited decision }
      match executor.broker.placeOrder py kite intent executor.config decision risk
          (some executor.guard) with
      | (.error exception, broker) =>
          (.ok
            { success := false
              brokerOrderId := none
              approvalStatus := some decision.status
              error := some (errorText py exception) }, { executor with broker := broker })
      | (.ok brokerOrderId, broker) =>
          (.ok
            { success := true
              brokerOrderId := some brokerOrderId
              approvalStatus := some .approved
              error := none }, { executor with broker := broker })

def execute (py : Python) (kite : KiteClient) (check : Option (RiskCheck ρ)) (clock : CallClock)
    (executor : LiveOrderPilotExecutor ρ) (intent : OrderIntent)
    (snapshot : Option PortfolioSnapshot) (estimatedPrice : Option ℚ) :
    Except EngineError PilotOrderResult × LiveOrderPilotExecutor ρ :=
  match check, snapshot with
  | some check, some snapshot =>
      match check executor.riskState intent snapshot clock.ts with
      | (.error exception, riskState) =>
          (.error exception, { executor with riskState := riskState })
      | (.ok decision, riskState) =>
          let executor := { executor with riskState := riskState }
          if decision.approved then
            executor.executeChecked py kite clock intent estimatedPrice (some decision)
          else (.ok (riskBlocked decision), executor)
  | _, _ => executor.executeChecked py kite clock intent estimatedPrice none

end LiveOrderPilotExecutor

end TradingEngine.LiveExecution
