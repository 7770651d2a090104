/-
The dry run of an order.

`preview` asks the risk engine when there is one and a snapshot is given, then the
approval gate, and says what would happen.  A session is a family of executors that
share one risk engine, with the state of the engine.
-/

import Mathlib.Logic.Function.Basic
import TradingEngine.LiveExecution.PilotExecutor
import TradingEngine.Risk.RiskEngine

namespace TradingEngine.LiveExecution

open Domain Risk
open Signals (Side)

structure DryRunOrderPreview where
  generatedAt : Datetime
  strategyId : String
  symbol : String
  side : Side
  quantity : ℤ
  orderType : Domain.OrderType
  product : ProductType
  estimatedPrice : Option ℚ
  estimatedOrderValue : Option ℚ
  riskDecision : Option RiskDecision
  approvalStatus : Option ApprovalStatus
  message : String
deriving DecidableEq

structure DryRunExecutor where
  riskEngine : Option RiskEngine
  approvalGate : Option ApprovalGate

/-- The arguments of a call, with what the clock and the id generators give during it. -/
structure PreviewCall where
  clock : CallClock
  riskDecisionId : String
  intent : OrderIntent
  snapshot : Option PortfolioSnapshot
  estimatedPrice : Option ℚ

namespace PreviewCall

variable (call : PreviewCall)

/-- Only a positive price gives a value. -/
def estimatedOrderValue : Option ℚ :=
  (call.estimatedPrice.filter (fun price => 0 < price)).map
    (fun price => price * call.intent.quantity)

/-- `estimated_price or 'MARKET'`; zero counts as no price. -/
def priceText (decimalText : ℚ → String) : String :=
  ((call.estimatedPrice.filter (fun price => price ≠ 0)).map decimalText).getD "MARKET"

def previewWith (risk : Option RiskDecision) (approval : Option ApprovalStatus)
    (message : String) : DryRunOrderPreview :=
  { generatedAt := call.clock.ts
    strategyId := call.intent.strategyId
    symbol := call.intent.symbol
    side := call.intent.side
    quantity := call.intent.quantity
    orderType := call.intent.orderType
    product := call.intent.product
    estimatedPrice := call.estimatedPrice
    estimatedOrderValue := call.estimatedOrderValue
    riskDecision := risk
    approvalStatus := approval
    message := message }

end PreviewCall

def approvalText : Option ApprovalStatus → String
  | some .approved => "approval gate: APPROVED"
  | some .pending => "approval gate: PENDING (awaiting operator)"
  | none => "no approval gate"
  | some status => "approval gate: " ++ status.text

namespace DryRunExecutor

variable (py : Python) (decimalText : ℚ → String) (executor : DryRunExecutor)
  (call : PreviewCall) (riskState : RiskState)

/-- Step 1 of `preview`: the same check that a live order goes through. -/
def riskCheck : Option RiskDecision × RiskState :=
  match executor.riskEngine, call.snapshot with
  | some engine, some snapshot =>
      let answer := engine.checkOrderIntent call.riskDecisionId call.intent snapshot
        call.clock.ts riskState
      (some answer.1, answer.2)
  | _, _ => (none, riskState)

/-- The status that the gate gives; an exception other than `ManualApprovalRequired` ends
the preview with a message. -/
def askGate : Except String (Option ApprovalStatus) × DryRunExecutor :=
  match executor.approvalGate with
  | none => (.ok none, executor)
  | some gate =>
      match gate.requireApproval call.clock.requestedAt call.clock.decidedAt
          call.clock.approvalId call.intent call.estimatedPrice (some "dry_run_preview") with
      | (.ok decision, gate) =>
          (.ok (some decision.status), { executor with approvalGate := some gate })
      | (.error (.manualApprovalRequired _ _), gate) =>
          (.ok (some .pending), { executor with approvalGate := some gate })
      | (.error exception, gate) =>
          (.error ("DRY RUN: approval gate blocked — " ++ errorText py exception),
            { executor with approvalGate := some gate })

def summary (risk : Option RiskDecision) (approval : Option ApprovalStatus) : String :=
  let riskOk := risk.all (fun decision => decision.approved)
  "DRY RUN: " ++ Side.text call.intent.side ++ " " ++ toString call.intent.quantity ++ " " ++
    call.intent.symbol ++ " @ " ++ call.priceText decimalText ++ " — risk: " ++
    (if riskOk then "PASS" else "FAIL") ++ ", " ++ approvalText approval ++ ". No order placed."

def blockedText (decision : RiskDecision) : String :=
  "DRY RUN: order would be BLOCKED by risk engine — " ++ decision.reasonCode.text ++ ": " ++
    decision.reasonMessage

/-- The preview, with the executor and the risk state that the call leaves behind. -/
def preview : DryRunOrderPreview × DryRunExecutor × RiskState :=
  let checked := executor.riskCheck call riskState
  match checked.1.filter (fun decision => !decision.approved) with
  | some decision =>
      (call.previewWith checked.1 (some .autoRejected) (blockedText decision), executor, checked.2)
  | none =>
      match executor.askGate py call with
      | (.error message, executor) =>
          (call.previewWith checked.1 (some .autoRejected) message, executor, checked.2)
      | (.ok approval, executor) =>
          (call.previewWith checked.1 approval (summary decimalText call checked.1 approval),
            executor, checked.2)

@[simp]
theorem preview_riskState :
    (executor.preview py decimalText call riskState).2.2 =
      (executor.riskCheck call riskState).2 := by
  unfold preview
  dsimp only
  split
  · rfl
  · split <;> rfl

theorem askGate_riskEngine : (executor.askGate py call).2.riskEngine = executor.riskEngine := by
  unfold askGate
  split
  · rfl
  · split <;> rfl

@[simp]
theorem preview_riskEngine :
    (executor.preview py decimalText call riskState).2.1.riskEngine = executor.riskEngine := by
  have gate := askGate_riskEngine py executor call
  unfold preview
  dsimp only
  split
  · rfl
  · split
    · rename_i asked
      rw [asked] at gate
      exact gate
    · rename_i asked
      rw [asked] at gate
      exact gate

end DryRunExecutor

/-! ### Sessions -/

structure DryRunSession (ι : Type) where
  executors : ι → DryRunExecutor
  riskState : RiskState

namespace DryRunSession

variable {ι : Type} [DecidableEq ι] (py : Python) (decimalText : ℚ → String)

def preview (session : DryRunSession ι) (name : ι) (call : PreviewCall) :
    DryRunOrderPreview × DryRunSession ι :=
  let answer := (session.executors name).preview py decimalText call session.riskState
  (answer.1,
    { executors := Function.update session.executors name answer.2.1
      riskState := answer.2.2 })

def afterPreviews (session : DryRunSession ι) (previews : List (ι × PreviewCall)) :
    DryRunSession ι :=
  previews.foldl (fun session entry => (session.preview py decimalText entry.1 entry.2).2) session

end DryRunSession

end TradingEngine.LiveExecution
