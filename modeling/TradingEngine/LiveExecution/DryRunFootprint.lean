/-
What dry runs leave in the risk engine that live orders share with them.

A preview makes the same check as a live order.  It is unnoticed exactly when the
check stops before the budgets, or finds them used up with nothing to drop from the
queue of timestamps.
-/

import TradingEngine.LiveExecution.DryRun
import TradingEngine.Risk.CheckRuns

namespace TradingEngine.LiveExecution

open Domain Risk RiskEngine

def PreviewCall.check? (call : PreviewCall) : Option CheckCall :=
  call.snapshot.map (fun snapshot =>
    { riskDecisionId := call.riskDecisionId
      intent := call.intent
      snapshot := snapshot
      ts := call.clock.ts })

namespace DryRunSession

variable {ι : Type} [DecidableEq ι] (py : Python) (decimalText : ℚ → String) (engine : RiskEngine)

/-- Every executor of the session holds the engine. -/
def Shares (session : DryRunSession ι) : Prop :=
  ∀ name, (session.executors name).riskEngine = some engine

/-- Whatever is checked later, the decisions are those that there would be without the
previews. -/
def Unnoticed (session : DryRunSession ι) (previews : List (ι × PreviewCall)) : Prop :=
  ∀ later, engine.decisions (session.afterPreviews py decimalText previews).riskState later =
    engine.decisions session.riskState later

variable {py decimalText engine} {session : DryRunSession ι} {previews : List (ι × PreviewCall)}

theorem Shares.preview (shares : session.Shares engine) (name : ι) (call : PreviewCall) :
    (session.preview py decimalText name call).2.Shares engine := by
  intro other
  change (Function.update session.executors name _ other).riskEngine = some engine
  by_cases same : other = name
  · subst same
    rw [Function.update_self, DryRunExecutor.preview_riskEngine]
    exact shares other
  · rw [Function.update_of_ne same]
    exact shares other

theorem riskState_preview (shares : session.Shares engine) (name : ι) (call : PreviewCall) :
    (session.preview py decimalText name call).2.riskState =
      call.check?.elim session.riskState
        (fun check => (engine.check check session.riskState).2) := by
  change ((session.executors name).preview py decimalText call session.riskState).2.2 = _
  rw [DryRunExecutor.preview_riskState]
  unfold DryRunExecutor.riskCheck PreviewCall.check?
  rw [shares name]
  cases call.snapshot <;> rfl

theorem marked_afterPreviews {before : RiskState} (shares : session.Shares engine)
    (marked : engine.Marked before session.riskState) :
    engine.Marked before (session.afterPreviews py decimalText previews).riskState := by
  induction previews generalizing session with
  | nil => exact marked
  | cons entry rest ih =>
      refine ih (shares.preview entry.1 entry.2) ?_
      rw [riskState_preview shares]
      cases entry.2.check? with
      | none => exact marked
      | some check => exact marked.check check

variable (engine session) in
/-- The check of the preview, at the state before the session, touches no counter. -/
def Harmless (call : PreviewCall) : Prop :=
  ∀ check ∈ call.check?, LeavesCounters engine session.riskState check

theorem riskState_of_harmless (shares : session.Shares engine) {call : PreviewCall}
    (harmless : session.Harmless engine call) (name : ι) :
    (session.preview py decimalText name call).2.riskState = session.riskState := by
  rw [riskState_preview shares]
  cases checked : call.check? with
  | none => rfl
  | some check => exact check_of_leavesCounters (harmless check checked)

theorem marked_of_not_harmless (shares : session.Shares engine) {call : PreviewCall}
    (harmful : ¬ session.Harmless engine call) (name : ι) :
    engine.Marked session.riskState (session.preview py decimalText name call).2.riskState := by
  unfold Harmless at harmful
  rw [riskState_preview shares]
  cases checked : call.check? with
  | none =>
      rw [checked] at harmful
      exact absurd (fun check member => by cases member) harmful
  | some check =>
      rw [checked] at harmful
      refine marked_of_not_leavesCounters (fun leaves => harmful ?_)
      rintro other ⟨⟩
      exact leaves

theorem afterPreviews_cases (shares : session.Shares engine) :
    ((∀ entry ∈ previews, session.Harmless engine entry.2) ∧
      (session.afterPreviews py decimalText previews).riskState = session.riskState) ∨
    ((¬ ∀ entry ∈ previews, session.Harmless engine entry.2) ∧
      engine.Marked session.riskState
        (session.afterPreviews py decimalText previews).riskState) := by
  induction previews generalizing session with
  | nil => exact Or.inl ⟨fun entry member => absurd member List.not_mem_nil, rfl⟩
  | cons entry rest ih =>
      have sharesNext := @Shares.preview ι _ py decimalText engine session shares entry.1 entry.2
      rw [List.forall_mem_cons]
      by_cases harmless : session.Harmless engine entry.2
      · have kept := @riskState_of_harmless ι _ py decimalText engine session shares entry.2
          harmless entry.1
        have sameTest : ∀ call, (session.preview py decimalText entry.1 entry.2).2.Harmless engine
            call ↔ session.Harmless engine call := by
          intro call
          unfold Harmless
          rw [kept]
        have others := ih sharesNext
        simp only [sameTest, kept] at others
        rcases others with ⟨harmlessRest, same⟩ | ⟨harmfulRest, marked⟩
        · exact Or.inl ⟨⟨harmless, harmlessRest⟩, same⟩
        · exact Or.inr ⟨fun both => harmfulRest both.2, marked⟩
      · refine Or.inr ⟨fun both => harmless both.1, ?_⟩
        change engine.Marked session.riskState ((session.preview py decimalText entry.1
          entry.2).2.afterPreviews py decimalText rest).riskState
        exact marked_afterPreviews sharesNext (marked_of_not_harmless shares harmless entry.1)

/-- Previews on a shared engine are unnoticed exactly when each of them, at the state before
them all, has no snapshot or a check that leaves the counters alone. -/
theorem unnoticed_iff (shares : session.Shares engine) :
    session.Unnoticed py decimalText engine previews ↔
      ∀ entry ∈ previews, session.Harmless engine entry.2 := by
  rcases @afterPreviews_cases ι _ py decimalText engine session previews shares with
    ⟨harmless, same⟩ | ⟨harmful, marked⟩
  · refine iff_of_true (fun later => ?_) harmless
    rw [same]
  · refine iff_of_false (fun unnoticed => ?_) harmful
    obtain ⟨later, different⟩ := exists_decisions_ne marked
    exact different (unnoticed later)

end DryRunSession

/-! ### A preview before three orders -/

def previewedIntent : PreviewCall :=
  { clock :=
      { ts := 0
        requestedAt := 0
        decidedAt := 0
        approvalId := "approval_1" }
    riskDecisionId := "risk_0"
    intent := pricedIntent
    snapshot := some emptySnapshot
    estimatedPrice := some 100 }

/-- One executor without a gate, on an engine that allows three trades a day. -/
def slowSession : DryRunSession Unit :=
  { executors := fun _ =>
      { riskEngine := some slowEngine
        approvalGate := none }
    riskState := RiskState.new KillSwitch.new }

theorem slowSession_unnoticed_iff :
    slowSession.Unnoticed Python.ascii (fun _ => "") slowEngine [((), previewedIntent)] ↔
      ∀ entry ∈ [((), previewedIntent)], slowSession.Harmless slowEngine entry.2 :=
  DryRunSession.unnoticed_iff (fun _ => rfl)

/-- After a preview the third order of the day is refused. -/
theorem previewedIntent_noticed :
    ¬ slowSession.Unnoticed Python.ascii (fun _ => "") slowEngine [((), previewedIntent)] := by
  intro unnoticed
  have same := unnoticed (spaced pricedIntent emptySnapshot 1000000 3)
  have approvals := congrArg (List.map RiskDecision.approved) same
  revert approvals
  decide +kernel

end TradingEngine.LiveExecution
