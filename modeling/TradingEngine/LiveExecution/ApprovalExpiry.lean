/-
Decisions on requests that have expired.

`check_decision` looks at the expiry of a request, while `approve` and `reject` look
only at its existence and at earlier decisions.  The discipline of the gate is kept by
the runs in which nobody approves or rejects an undecided request after its expiry.
-/

import TradingEngine.General.EventRun
import TradingEngine.LiveExecution.Approvals

namespace TradingEngine.LiveExecution

open Domain

variable (py : Python)

inductive GateEvent where
  | createRequest (now : Datetime) (approvalId : String) (intent : OrderIntent)
      (estimatedPrice : Option ℚ) (reason : Option String)
  | approve (now : Datetime) (approvalId decidedBy : String) (reason : Option String)
  | reject (now : Datetime) (approvalId decidedBy : String) (reason : Option String)
  | checkDecision (now decidedAt : Datetime) (approvalId : String)

def gateStep (gate : ApprovalGate) : GateEvent → ApprovalGate
  | .createRequest now id intent estimatedPrice reason =>
      (gate.createRequest now id intent estimatedPrice reason).2
  | .approve now id decidedBy reason => (gate.approve py now id decidedBy reason).2
  | .reject now id decidedBy reason => (gate.reject py now id decidedBy reason).2
  | .checkDecision now decidedAt id => (gate.checkDecision now decidedAt id).2

def FreshApprovalId (gate : ApprovalGate) : GateEvent → Prop
  | .createRequest _ id _ _ _ => gate.requests.get? id = none
  | _ => True

/-! ### The discipline -/

/-- The request exists, has no decision, and has not reached its expiry. -/
def ApprovalGate.Actionable (gate : ApprovalGate) (now : Datetime) (approvalId : String) : Prop :=
  ∃ request, gate.requests.get? approvalId = some request ∧
    gate.decisions.get? approvalId = none ∧ request.isExpired now = false

/-- `approve` and `reject` succeed exactly on what can be acted on. -/
def ActsOnActionable (gate : ApprovalGate) : GateEvent → Prop
  | .approve now id decidedBy reason =>
      (∃ decision, (gate.approve py now id decidedBy reason).1 = .ok decision) ↔
        gate.Actionable now id
  | .reject now id decidedBy reason =>
      (∃ decision, (gate.reject py now id decidedBy reason).1 = .ok decision) ↔
        gate.Actionable now id
  | _ => True

/-- No approval is dated at or after the expiry of its request. -/
def ApprovedInTime (gate : ApprovalGate) : Prop :=
  ∀ id decision request expiry, gate.decisions.get? id = some decision →
    decision.status = .approved → gate.requests.get? id = some request →
      request.expiresAt = some expiry → decision.decidedAt < expiry

def KeepsDecisions (gate next : ApprovalGate) : Prop :=
  ∀ id decision, gate.decisions.get? id = some decision →
    next.decisions.get? id = some decision

/-- Each operation of a run acts on what it can, no recorded decision changes, and every
state reached has its approvals in time. -/
structure GateDiscipline (start : ApprovalGate) (events : List GateEvent) : Prop where
  acts : EventRun.Admissible (gateStep py) (ActsOnActionable py) start events
  keeps : ∀ earlier later, events = earlier ++ later →
    KeepsDecisions (EventRun.run (gateStep py) start earlier)
      (EventRun.run (gateStep py) start events)
  inTime : ∀ earlier later, events = earlier ++ later →
    ApprovedInTime (EventRun.run (gateStep py) start earlier)

def ActsBeforeExpiry (gate : ApprovalGate) : GateEvent → Prop
  | .approve now id _ _ => ∀ request, gate.requests.get? id = some request →
      gate.decisions.get? id = none → request.isExpired now = false
  | .reject now id _ _ => ∀ request, gate.requests.get? id = some request →
      gate.decisions.get? id = none → request.isExpired now = false
  | _ => True

/-! ### One operation -/

/-- What `_get_pending_request` finds: an undecided request, expired or not. -/
theorem ApprovalGate.getPendingRequest_eq_ok_iff (gate : ApprovalGate) (approvalId : String)
    (request : ApprovalRequest) :
    gate.getPendingRequest py approvalId = .ok request ↔
      gate.requests.get? approvalId = some request ∧ gate.decisions.get? approvalId = none := by
  unfold getPendingRequest
  cases gate.requests.get? approvalId with
  | none => simp
  | some found =>
      cases gate.decisions.get? approvalId with
      | none => simp
      | some decision => simp

theorem ApprovalRequest.isExpired_eq_false_iff {request : ApprovalRequest} {now : Datetime} :
    request.isExpired now = false ↔
      ∀ expiry, request.expiresAt = some expiry → now < expiry := by
  unfold isExpired
  cases request.expiresAt with
  | none => simp
  | some expiry => simp

/-- The gate is left alone, or it records one decision on an undecided request, which
approves only where that is allowed. -/
def DecidesOnce (gate : ApprovalGate) (mayApprove : ApprovalDecision → Prop)
    (next : ApprovalGate) : Prop :=
  next = gate ∨
    ∃ request decision, gate.requests.get? decision.approvalId = some request ∧
      gate.decisions.get? decision.approvalId = none ∧ next = gate.decide decision ∧
        (decision.status = .approved → mayApprove decision)

section Operations

variable (gate : ApprovalGate) (now decidedAt : Datetime) (id decidedBy : String)
  (reason : Option String)

theorem decidesOnce_approve :
    DecidesOnce gate (fun decision => decision.decidedAt = now ∧ decision.approvalId = id)
      (gate.approve py now id decidedBy reason).2 := by
  unfold ApprovalGate.approve
  cases pending : gate.getPendingRequest py id with
  | error exception => exact Or.inl rfl
  | ok request =>
      obtain ⟨requested, undecided⟩ :=
        (gate.getPendingRequest_eq_ok_iff py id request).mp pending
      refine Or.inr ⟨request,
        { approvalId := id
          status := .approved
          decidedAt := now
          decidedBy := some decidedBy
          reason := reason },
        requested, undecided, rfl, ?_⟩
      exact fun _approved => ⟨rfl, rfl⟩

theorem decidesOnce_reject :
    DecidesOnce gate (fun _decision => False) (gate.reject py now id decidedBy reason).2 := by
  unfold ApprovalGate.reject
  cases pending : gate.getPendingRequest py id with
  | error exception => exact Or.inl rfl
  | ok request =>
      obtain ⟨requested, undecided⟩ :=
        (gate.getPendingRequest_eq_ok_iff py id request).mp pending
      refine Or.inr ⟨request,
        { approvalId := id
          status := .rejected
          decidedAt := now
          decidedBy := some decidedBy
          reason := some (ApprovalGate.textOr reason "Rejected by operator.") },
        requested, undecided, rfl, ?_⟩
      exact fun rejected => nomatch rejected

theorem decidesOnce_checkDecision :
    DecidesOnce gate (fun _decision => False) (gate.checkDecision now decidedAt id).2 := by
  unfold ApprovalGate.checkDecision
  cases undecided : gate.decisions.get? id with
  | some decision => exact Or.inl rfl
  | none =>
      cases requested : gate.requests.get? id with
      | none => exact Or.inl rfl
      | some request =>
          dsimp only
          by_cases expired : request.isExpired now
          · rw [if_pos expired]
            refine Or.inr ⟨request,
              { approvalId := id
                status := .expired
                decidedAt := decidedAt
                decidedBy := some "system"
                reason := some "Request expired before a decision was made." },
              requested, undecided, rfl, ?_⟩
            exact fun approved => nomatch approved
          · rw [if_neg expired]
            exact Or.inl rfl

end Operations

/-- What an operation does: it stores a request, or it decides at most once, and an approval
comes from `approve` at its date. -/
theorem gateStep_cases (gate : ApprovalGate) (event : GateEvent) :
    (∃ now id intent estimatedPrice reason,
      event = .createRequest now id intent estimatedPrice reason) ∨
    DecidesOnce gate (fun decision => ∃ decidedBy reason,
        event = .approve decision.decidedAt decision.approvalId decidedBy reason)
      (gateStep py gate event) := by
  have never : ∀ {mayApprove : ApprovalDecision → Prop} {next : ApprovalGate},
      DecidesOnce gate (fun _decision => False) next → DecidesOnce gate mayApprove next := by
    rintro mayApprove next (same | ⟨request, decision, requested, undecided, decided, not⟩)
    · exact Or.inl same
    · exact Or.inr ⟨request, decision, requested, undecided, decided,
        fun approved => (not approved).elim⟩
  cases event with
  | createRequest now id intent estimatedPrice reason => exact Or.inl ⟨_, _, _, _, _, rfl⟩
  | approve now id decidedBy reason =>
      right
      rcases decidesOnce_approve py gate now id decidedBy reason with
        same | ⟨request, decision, requested, undecided, decided, approves⟩
      · exact Or.inl same
      · refine Or.inr ⟨request, decision, requested, undecided, decided, ?_⟩
        intro approved
        obtain ⟨rfl, rfl⟩ := approves approved
        exact ⟨decidedBy, reason, rfl⟩
  | reject now id decidedBy reason =>
      exact Or.inr (never (decidesOnce_reject py gate now id decidedBy reason))
  | checkDecision now decidedAt id =>
      exact Or.inr (never (decidesOnce_checkDecision gate now decidedAt id))

theorem keepsDecisions_gateStep (gate : ApprovalGate) (event : GateEvent) :
    KeepsDecisions gate (gateStep py gate event) := by
  intro id decision recorded
  rcases gateStep_cases py gate event with
    ⟨now, fresh, intent, estimatedPrice, reason, rfl⟩ | same | ⟨_, new, _, undecided, decided, _⟩
  · exact recorded
  · rw [same]
    exact recorded
  · rw [decided]
    change (gate.decisions.insert new.approvalId new).get? id = some decision
    rw [OrderedDict.get?_insert, if_neg]
    · exact recorded
    · intro own
      rw [own, undecided] at recorded
      cases recorded

theorem actsOnActionable_iff (gate : ApprovalGate) (event : GateEvent) :
    ActsOnActionable py gate event ↔ ActsBeforeExpiry gate event := by
  have general : ∀ now id,
      ((∃ request, gate.getPendingRequest py id = .ok request) ↔ gate.Actionable now id) ↔
        ∀ request, gate.requests.get? id = some request → gate.decisions.get? id = none →
          request.isExpired now = false := by
    intro now id
    simp only [gate.getPendingRequest_eq_ok_iff py]
    constructor
    · intro acts request requested undecided
      obtain ⟨found, foundAt, _, live⟩ := acts.mp ⟨request, requested, undecided⟩
      rw [requested] at foundAt
      cases foundAt
      exact live
    · intro live
      constructor
      · intro pending
        obtain ⟨request, requested, undecided⟩ := pending
        exact ⟨request, requested, undecided, live request requested undecided⟩
      · intro actionable
        obtain ⟨request, requested, undecided, _⟩ := actionable
        exact ⟨request, requested, undecided⟩
  cases event with
  | createRequest now id intent estimatedPrice reason => exact Iff.rfl
  | checkDecision now decidedAt id => exact Iff.rfl
  | approve now id decidedBy reason =>
      refine Iff.trans (iff_congr ?_ Iff.rfl) (general now id)
      unfold ApprovalGate.approve
      cases gate.getPendingRequest py id <;> simp
  | reject now id decidedBy reason =>
      refine Iff.trans (iff_congr ?_ Iff.rfl) (general now id)
      unfold ApprovalGate.reject
      cases gate.getPendingRequest py id <;> simp

/-! ### Runs -/

/-- Decisions are on stored requests, and approvals are in time. -/
structure SoundGate (gate : ApprovalGate) : Prop where
  requested : ∀ id decision, gate.decisions.get? id = some decision →
    ∃ request, gate.requests.get? id = some request
  inTime : ApprovedInTime gate

/-- The new request is not decided, since no request was stored under its id. -/
theorem SoundGate.createRequest {gate : ApprovalGate} (sound : SoundGate gate) {id : String}
    (fresh : gate.requests.get? id = none) (request : ApprovalRequest) :
    SoundGate { gate with requests := gate.requests.insert id request } := by
  constructor
  · intro other decision recorded
    obtain ⟨old, found⟩ := sound.requested other decision recorded
    dsimp only
    rw [OrderedDict.get?_insert]
    by_cases own : other = id
    · rw [if_pos own]
      exact ⟨request, rfl⟩
    · rw [if_neg own]
      exact ⟨old, found⟩
  · intro other decision found expiry recorded approved foundAt expires
    obtain ⟨old, oldAt⟩ := sound.requested other decision recorded
    dsimp only at foundAt
    rw [OrderedDict.get?_insert, if_neg] at foundAt
    · exact sound.inTime other decision found expiry recorded approved foundAt expires
    · intro own
      rw [own, fresh] at oldAt
      cases oldAt

theorem SoundGate.decide {gate : ApprovalGate} (sound : SoundGate gate)
    {request : ApprovalRequest} {new : ApprovalDecision}
    (requested : gate.requests.get? new.approvalId = some request)
    (live : new.status = .approved → request.isExpired new.decidedAt = false) :
    SoundGate (gate.decide new) := by
  have recordedAt : ∀ id, (gate.decide new).decisions.get? id =
      if id = new.approvalId then some new else gate.decisions.get? id :=
    fun id => OrderedDict.get?_insert _ _ _ _
  constructor
  · intro id decision recorded
    rw [recordedAt] at recorded
    by_cases own : id = new.approvalId
    · rw [own]
      exact ⟨request, requested⟩
    · rw [if_neg own] at recorded
      exact sound.requested id decision recorded
  · intro id decision found expiry recorded approved foundAt expires
    rw [recordedAt] at recorded
    by_cases own : id = new.approvalId
    · rw [if_pos own] at recorded
      cases recorded
      rw [own] at foundAt
      rw [show gate.requests.get? new.approvalId = some found from foundAt] at requested
      cases requested
      exact ApprovalRequest.isExpired_eq_false_iff.mp (live approved) expiry expires
    · rw [if_neg own] at recorded
      exact sound.inTime id decision found expiry recorded approved foundAt expires

theorem SoundGate.gateStep {gate : ApprovalGate} (sound : SoundGate gate) {event : GateEvent}
    (fresh : FreshApprovalId gate event) (early : ActsBeforeExpiry gate event) :
    SoundGate (gateStep py gate event) := by
  rcases gateStep_cases py gate event with
    ⟨now, id, intent, estimatedPrice, reason, rfl⟩ | same |
      ⟨request, new, requested, undecided, decided, approves⟩
  · exact sound.createRequest fresh _
  · rw [same]
    exact sound
  · rw [decided]
    refine sound.decide requested (fun approved => ?_)
    obtain ⟨decidedBy, reason, rfl⟩ := approves approved
    exact early request requested undecided

/-- A gate without requests. -/
def ApprovalGate.new (mode : ApprovalMode) (timeout : ℤ) (timeout_pos : 0 < timeout)
    (decidedBy : Option String) : ApprovalGate :=
  { mode := mode
    timeout := timeout
    defaultDecidedBy := decidedBy
    requests := OrderedDict.empty
    decisions := OrderedDict.empty
    timeout_pos := timeout_pos }

theorem soundGate_new (mode : ApprovalMode) (timeout : ℤ) (timeout_pos : 0 < timeout)
    (decidedBy : Option String) :
    SoundGate (ApprovalGate.new mode timeout timeout_pos decidedBy) :=
  { requested := by
      intro id decision recorded
      cases (rfl : (none : Option ApprovalDecision) = _).trans recorded
    inTime := by
      intro id decision request expiry recorded
      cases (rfl : (none : Option ApprovalDecision) = _).trans recorded }

/-- A run has the discipline exactly when it acts on no undecided request after its
expiry. -/
theorem gateDiscipline_iff (mode : ApprovalMode) (timeout : ℤ) (timeout_pos : 0 < timeout)
    (decidedBy : Option String) (events : List GateEvent)
    (fresh : EventRun.Admissible (gateStep py) FreshApprovalId
      (ApprovalGate.new mode timeout timeout_pos decidedBy) events) :
    GateDiscipline py (ApprovalGate.new mode timeout timeout_pos decidedBy) events ↔
      EventRun.Admissible (gateStep py) ActsBeforeExpiry
        (ApprovalGate.new mode timeout timeout_pos decidedBy) events := by
  have exactly_early : EventRun.Admissible (gateStep py) _ _ events ↔ _ :=
    EventRun.admissible_congr (actsOnActionable_iff py)
      (ApprovalGate.new mode timeout timeout_pos decidedBy) events
  constructor
  · intro discipline
    exact exactly_early.mp discipline.acts
  · intro early
    refine ⟨exactly_early.mpr early, ?_, ?_⟩
    · intro earlier later split
      rw [split, EventRun.run_append]
      exact EventRun.run_related KeepsDecisions (fun _gate _id _decision recorded => recorded)
        (fun _ _ _ first second id decision recorded =>
          second id decision (first id decision recorded))
        (fun _gate => True)
        (fun gate event _allowed _holds => ⟨trivial, keepsDecisions_gateStep py gate event⟩)
        (EventRun.admissible_of_forall (fun _gate _event => trivial)
          (EventRun.run (gateStep py) _ earlier) later) trivial
    · intro earlier later split
      have allowed := fresh.and early
      rw [split] at allowed
      have sound := EventRun.run_invariant SoundGate
        (fun gate event both sound => sound.gateStep py both.1 both.2) allowed.of_append
        (soundGate_new mode timeout timeout_pos decidedBy)
      exact sound.inTime

/-! ### An approval after the expiry -/

/-- A gate with a timeout of one second. -/
def shortGate : ApprovalGate :=
  ApprovalGate.new .manualApprove 1 Int.zero_lt_one none

def requestAt (now : Datetime) : GateEvent :=
  .createRequest now "approval_1" sampleIntent none none

def approveAt (now : Datetime) : GateEvent :=
  .approve now "approval_1" "operator" none

theorem shortGate_discipline_iff :
    GateDiscipline Python.ascii shortGate [requestAt 0, approveAt 1] ↔
      EventRun.Admissible (gateStep Python.ascii) ActsBeforeExpiry shortGate
        [requestAt 0, approveAt 1] :=
  gateDiscipline_iff Python.ascii .manualApprove 1 Int.zero_lt_one none
    [requestAt 0, approveAt 1] ⟨rfl, trivial, trivial⟩

/-- An operator approves two seconds after the request, one second after its expiry. -/
theorem shortGate_late_approval :
    EventRun.Admissible (gateStep Python.ascii) FreshApprovalId shortGate
        [requestAt 0, approveAt 2000000] ∧
      ¬ GateDiscipline Python.ascii shortGate [requestAt 0, approveAt 2000000] := by
  refine ⟨⟨rfl, trivial, trivial⟩, ?_⟩
  intro discipline
  have inTime := discipline.inTime [requestAt 0, approveAt 2000000] [] rfl
  have late := inTime "approval_1"
    { approvalId := "approval_1"
      status := .approved
      decidedAt := 2000000
      decidedBy := some "operator"
      reason := none }
    (intentToRequest 0 "approval_1" sampleIntent none none 1 Int.zero_lt_one) 1000000
    (by decide) rfl (by decide) rfl
  exact absurd late (by decide)

end TradingEngine.LiveExecution
