/-
The approval gate for live order intents.

The gate keeps the requests and the decisions by approval id.  An operation takes
the clock and the generated id that it reads and gives its result with the gate
that it leaves behind.
-/

import TradingEngine.Domain.Models
import TradingEngine.General.OrderedDict

namespace TradingEngine.LiveExecution

open Domain
open Signals (Side)

inductive ApprovalMode where
  | autoPaper
  | manualApprove
  | autoLive
deriving DecidableEq

inductive ApprovalStatus where
  | pending
  | approved
  | rejected
  | expired
  | autoRejected
deriving DecidableEq

def ApprovalStatus.text : ApprovalStatus → String
  | .pending => "pending"
  | .approved => "approved"
  | .rejected => "rejected"
  | .expired => "expired"
  | .autoRejected => "auto_rejected"

def ApprovalStatus.name : ApprovalStatus → String
  | .pending => "PENDING"
  | .approved => "APPROVED"
  | .rejected => "REJECTED"
  | .expired => "EXPIRED"
  | .autoRejected => "AUTO_REJECTED"

def ApprovalStatus.repr (status : ApprovalStatus) : String :=
  "<ApprovalStatus." ++ status.name ++ ": '" ++ status.text ++ "'>"

structure ApprovalRequest where
  approvalId : String
  createdAt : Datetime
  expiresAt : Option Datetime
  strategyId : String
  symbol : String
  side : Side
  quantity : ℤ
  orderType : Domain.OrderType
  product : ProductType
  estimatedPrice : Option ℚ
  reason : Option String
  quantity_pos : 0 < quantity
  expires_later : ∀ expiry, expiresAt = some expiry → createdAt < expiry
deriving DecidableEq

def ApprovalRequest.isExpired (request : ApprovalRequest) (now : Datetime) : Bool :=
  request.expiresAt.any (fun expiry => expiry ≤ now)

structure ApprovalDecision where
  approvalId : String
  status : ApprovalStatus
  decidedAt : Datetime
  decidedBy : Option String
  reason : Option String
deriving DecidableEq

structure ApprovalGate where
  mode : ApprovalMode
  timeout : ℤ
  defaultDecidedBy : Option String
  requests : OrderedDict String ApprovalRequest
  decisions : OrderedDict String ApprovalDecision
  timeout_pos : 0 < timeout

def seconds (timeout : ℤ) : Datetime :=
  timeout * 1000000

private theorem expires_after (now : Datetime) {timeout : ℤ} (positive : 0 < timeout) :
    ∀ expiry, some (now + seconds timeout) = some expiry → now < expiry := by
  intro expiry same
  cases same
  exact Int.lt_add_of_pos_right now (Int.mul_pos positive (by decide))

def intentToRequest (now : Datetime) (approvalId : String) (intent : OrderIntent)
    (estimatedPrice : Option ℚ) (reason : Option String) (timeout : ℤ)
    (timeout_pos : 0 < timeout) : ApprovalRequest :=
  { approvalId := approvalId
    createdAt := now
    expiresAt := some (now + seconds timeout)
    strategyId := intent.strategyId
    symbol := intent.symbol
    side := intent.side
    quantity := intent.quantity
    orderType := intent.orderType
    product := intent.product
    estimatedPrice := estimatedPrice
    reason := reason
    quantity_pos := intent.shape.quantity_pos
    expires_later := expires_after now timeout_pos }

namespace ApprovalGate

def createRequest (gate : ApprovalGate) (now : Datetime) (approvalId : String)
    (intent : OrderIntent) (estimatedPrice : Option ℚ) (reason : Option String) :
    ApprovalRequest × ApprovalGate :=
  let request := intentToRequest now approvalId intent estimatedPrice reason gate.timeout
    gate.timeout_pos
  (request, { gate with requests := gate.requests.insert approvalId request })

def getPendingRequest (py : Python) (gate : ApprovalGate) (approvalId : String) :
    Except EngineError ApprovalRequest :=
  match gate.requests.get? approvalId with
  | none => .error (.keyError ("No approval request found with id=" ++ py.repr approvalId))
  | some request =>
      match gate.decisions.get? approvalId with
      | some decision =>
          .error (.valueError ("Approval request " ++ py.repr approvalId ++
            " is already decided (status=" ++ decision.status.text ++ ")."))
      | none => .ok request

def decide (gate : ApprovalGate) (decision : ApprovalDecision) : ApprovalGate :=
  { gate with decisions := gate.decisions.insert decision.approvalId decision }

def approve (py : Python) (gate : ApprovalGate) (now : Datetime) (approvalId decidedBy : String)
    (reason : Option String) : Except EngineError ApprovalDecision × ApprovalGate :=
  match gate.getPendingRequest py approvalId with
  | .error exception => (.error exception, gate)
  | .ok _ =>
      let decision : ApprovalDecision :=
        { approvalId := approvalId
          status := .approved
          decidedAt := now
          decidedBy := some decidedBy
          reason := reason }
      (.ok decision, gate.decide decision)

/-- `text or default` for a text that may be `None`. -/
def textOr (text : Option String) (default : String) : String :=
  (text.filter (fun given => given ≠ "")).getD default

def reject (py : Python) (gate : ApprovalGate) (now : Datetime) (approvalId decidedBy : String)
    (reason : Option String) : Except EngineError ApprovalDecision × ApprovalGate :=
  match gate.getPendingRequest py approvalId with
  | .error exception => (.error exception, gate)
  | .ok _ =>
      let decision : ApprovalDecision :=
        { approvalId := approvalId
          status := .rejected
          decidedAt := now
          decidedBy := some decidedBy
          reason := some (textOr reason "Rejected by operator.") }
      (.ok decision, gate.decide decision)

/-- `check_decision`; the clock is read for the expiry check and for the decision. -/
def checkDecision (gate : ApprovalGate) (now decidedAt : Datetime) (approvalId : String) :
    Option ApprovalDecision × ApprovalGate :=
  match gate.decisions.get? approvalId with
  | some decision => (some decision, gate)
  | none =>
      match gate.requests.get? approvalId with
      | none => (none, gate)
      | some request =>
          if request.isExpired now then
            let expired : ApprovalDecision :=
              { approvalId := approvalId
                status := .expired
                decidedAt := decidedAt
                decidedBy := some "system"
                reason := some "Request expired before a decision was made." }
            (some expired, gate.decide expired)
          else (none, gate)

def autoLiveText : String :=
  "AUTO_LIVE approval mode is not implemented in this milestone. " ++
    "Real order execution requires an explicit future implementation. " ++
    "Use AUTO_PAPER for paper trading or MANUAL_APPROVE for manual review."

def manualApprovalText (intent : OrderIntent) (approvalId : String) : String :=
  "Order for " ++ Side.text intent.side ++ " " ++ toString intent.quantity ++ " " ++
    intent.symbol ++ " requires manual approval. approval_id=" ++ approvalId

def hasDefaultDecidedBy (gate : ApprovalGate) : Bool :=
  gate.defaultDecidedBy.any (fun given => given ≠ "")

/-- The decision that `AUTO_PAPER` records. -/
def paperDecision (gate : ApprovalGate) (decidedAt : Datetime) (approvalId : String)
    (reason : Option String) : ApprovalDecision :=
  { approvalId := approvalId
    status := .approved
    decidedAt := decidedAt
    decidedBy := some (textOr gate.defaultDecidedBy "auto_paper")
    reason := some (reason.getD
      (if gate.hasDefaultDecidedBy then "Terminal confirmation phrase matched."
      else "Automatically approved for paper trading.")) }

/-- `require_approval`; the clock is read for the request and for the decision. -/
def requireApproval (gate : ApprovalGate) (now decidedAt : Datetime) (approvalId : String)
    (intent : OrderIntent) (estimatedPrice : Option ℚ) (reason : Option String) :
    Except EngineError ApprovalDecision × ApprovalGate :=
  match gate.mode with
  | .autoLive => (.error (.safety autoLiveText), gate)
  | .autoPaper =>
      let created := gate.createRequest now approvalId intent estimatedPrice reason
      let decision := gate.paperDecision decidedAt approvalId reason
      (.ok decision, created.2.decide decision)
  | .manualApprove =>
      let created := gate.createRequest now approvalId intent estimatedPrice reason
      (.error (.manualApprovalRequired (manualApprovalText intent approvalId) approvalId),
        created.2)

end ApprovalGate

end TradingEngine.LiveExecution
