/-
How recorded approvals are used by placed orders.

`place_order` takes any decision object together with any intent.  The system keeps
the intent of every request and, for every placed order, the recorded approval that
was presented for it.  Nothing in the code ties the two together: a run uses every
approval once and for its own intent when its callers do.
-/

import TradingEngine.General.EventRun
import TradingEngine.LiveExecution.Gating

namespace TradingEngine.LiveExecution

open Domain Broker ZerodhaBroker

variable {py : Python} {kite : KiteClient}

/-- A placed order; `approvalId` is the id of the recorded decision that was presented. -/
structure Placement where
  approvalId : Option String
  intent : OrderIntent
deriving DecidableEq

structure PilotSystem where
  gate : ApprovalGate
  broker : ZerodhaBroker
  requested : OrderedDict String OrderIntent
  placements : List Placement

inductive PilotEvent where
  | createRequest (now : Datetime) (approvalId : String) (intent : OrderIntent)
      (estimatedPrice : Option ℚ) (reason : Option String)
  | approve (now : Datetime) (approvalId decidedBy : String) (reason : Option String)
  | reject (now : Datetime) (approvalId decidedBy : String) (reason : Option String)
  | checkDecision (now decidedAt : Datetime) (approvalId : String)
  | requireApproval (now decidedAt : Datetime) (approvalId : String) (intent : OrderIntent)
      (estimatedPrice : Option ℚ) (reason : Option String)
  | placeOrder (intent : OrderIntent) (config : LivePilotConfig) (approval : ApprovalDecision)
      (risk : Option RiskDecision) (safetyGuard : Option LiveExecutionSafetyGuard)

def recordedId (gate : ApprovalGate) (approval : ApprovalDecision) : Option String :=
  if gate.decisions.get? approval.approvalId = some approval then some approval.approvalId
  else none

def pilotStep (py : Python) (kite : KiteClient) (system : PilotSystem) :
    PilotEvent → PilotSystem
  | .createRequest now id intent estimatedPrice reason =>
      { system with
        gate := (system.gate.createRequest now id intent estimatedPrice reason).2
        requested := system.requested.insert id intent }
  | .approve now id decidedBy reason =>
      { system with gate := (system.gate.approve py now id decidedBy reason).2 }
  | .reject now id decidedBy reason =>
      { system with gate := (system.gate.reject py now id decidedBy reason).2 }
  | .checkDecision now decidedAt id =>
      { system with gate := (system.gate.checkDecision now decidedAt id).2 }
  | .requireApproval now decidedAt id intent estimatedPrice reason =>
      { system with
        gate := (system.gate.requireApproval now decidedAt id intent estimatedPrice reason).2
        requested :=
          if system.gate.mode = .autoLive then system.requested
          else system.requested.insert id intent }
  | .placeOrder intent config approval risk safetyGuard =>
      let after := (system.broker.placeOrder py kite intent config approval risk safetyGuard).2
      { system with
        broker := after
        placements :=
          if after.placed = system.broker.placed then system.placements
          else system.placements ++
            [{ approvalId := recordedId system.gate approval, intent := intent }] }

def FreshIds (system : PilotSystem) : PilotEvent → Prop
  | .createRequest _ id _ _ _ => system.requested.get? id = none
  | .requireApproval _ _ id _ _ _ => system.requested.get? id = none
  | _ => True

/-- A call that Kite receives presents a recorded decision that no placed order has used,
for the intent of its request. -/
def PresentedOnce (py : Python) (system : PilotSystem) : PilotEvent → Prop
  | .placeOrder intent config approval risk safetyGuard =>
      PlacementAllowed py system.broker (safetyGuard.getD system.broker.defaultGuard) intent
          config approval risk →
        system.gate.decisions.get? approval.approvalId = some approval →
          (∀ placement ∈ system.placements,
            placement.approvalId ≠ some approval.approvalId) ∧
            system.requested.get? approval.approvalId = some intent
  | _ => True

def usesOf (system : PilotSystem) (id : String) : List Placement :=
  system.placements.filter (fun placement => placement.approvalId = some id)

/-- Every recorded approval authorises at most one placed order, for its own intent. -/
def BoundSingleUse (system : PilotSystem) : Prop :=
  ∀ id decision, system.gate.decisions.get? id = some decision → decision.status = .approved →
    (usesOf system id).length ≤ 1 ∧
      ∀ placement ∈ usesOf system id, system.requested.get? id = some placement.intent

/-! ### The invariant -/

structure SoundUse (system : PilotSystem) : Prop where
  single : ∀ id, (usesOf system id).length ≤ 1
  bound : ∀ id, ∀ placement ∈ usesOf system id,
    system.requested.get? id = some placement.intent

theorem SoundUse.boundSingleUse {system : PilotSystem} (sound : SoundUse system) :
    BoundSingleUse system :=
  fun id _ _ _ => ⟨sound.single id, sound.bound id⟩

theorem SoundUse.of_requested {system next : PilotSystem} (sound : SoundUse system)
    (placements : next.placements = system.placements)
    (requested : ∀ id intent, system.requested.get? id = some intent →
      next.requested.get? id = some intent) : SoundUse next := by
  have uses (id : String) : usesOf next id = usesOf system id := by
    unfold usesOf
    rw [placements]
  constructor
  · intro id
    rw [uses]
    exact sound.single id
  · intro id placement member
    rw [uses] at member
    exact requested id placement.intent (sound.bound id placement member)

theorem get?_insert_of_fresh {requested : OrderedDict String OrderIntent} {fresh : String}
    (absent : requested.get? fresh = none) (intent : OrderIntent) (id : String)
    (own : OrderIntent) (found : requested.get? id = some own) :
    (requested.insert fresh intent).get? id = some own := by
  rw [OrderedDict.get?_insert, if_neg]
  · exact found
  · intro same
    rw [same, absent] at found
    cases found

theorem usesOf_append {system next : PilotSystem} {placement : Placement}
    (placements : next.placements = system.placements ++ [placement]) (id : String) :
    usesOf next id =
      usesOf system id ++ if placement.approvalId = some id then [placement] else [] := by
  unfold usesOf
  rw [placements, List.filter_append]
  by_cases own : placement.approvalId = some id
  · simp [own]
  · simp [own]

theorem SoundUse.placed {system next : PilotSystem} {placement : Placement}
    (sound : SoundUse system) (requested : next.requested = system.requested)
    (placements : next.placements = system.placements ++ [placement])
    (once : ∀ id, placement.approvalId = some id →
      (∀ other ∈ system.placements, other.approvalId ≠ some id) ∧
        system.requested.get? id = some placement.intent) : SoundUse next := by
  constructor
  · intro id
    rw [usesOf_append placements]
    split_ifs with own
    · have unused : usesOf system id = [] := by
        apply List.filter_eq_nil_iff.mpr
        intro other member
        simpa using (once id own).1 other member
      rw [unused]
      exact Nat.le_refl 1
    · rw [List.append_nil]
      exact sound.single id
  · intro id other member
    rw [usesOf_append placements, List.mem_append] at member
    rw [requested]
    rcases member with earlier | last
    · exact sound.bound id other earlier
    · split_ifs at last with own
      · rw [List.mem_singleton.mp last]
        exact (once id own).2
      · cases last

theorem recordedId_eq_some {gate : ApprovalGate} {approval : ApprovalDecision} {id : String}
    (recorded : recordedId gate approval = some id) :
    approval.approvalId = id ∧ gate.decisions.get? approval.approvalId = some approval := by
  unfold recordedId at recorded
  split_ifs at recorded with found
  exact ⟨Option.some.inj recorded, found⟩

theorem pilotStep_keeps {system : PilotSystem} {event : PilotEvent}
    (fresh : FreshIds system event) (once : PresentedOnce py system event)
    (sound : SoundUse system) : SoundUse (pilotStep py kite system event) := by
  cases event with
  | createRequest now id intent estimatedPrice reason =>
      exact sound.of_requested rfl (get?_insert_of_fresh fresh intent)
  | approve now id decidedBy reason => exact sound.of_requested rfl (fun _ _ found => found)
  | reject now id decidedBy reason => exact sound.of_requested rfl (fun _ _ found => found)
  | checkDecision now decidedAt id => exact sound.of_requested rfl (fun _ _ found => found)
  | requireApproval now decidedAt id intent estimatedPrice reason =>
      refine sound.of_requested rfl ?_
      intro other own found
      show (if system.gate.mode = .autoLive then system.requested
        else system.requested.insert id intent).get? other = some own
      split_ifs
      · exact found
      · exact get?_insert_of_fresh fresh intent other own found
  | placeOrder intent config approval risk safetyGuard =>
      by_cases called : (system.broker.placeOrder py kite intent config approval risk
          safetyGuard).2.placed = system.broker.placed
      · exact sound.of_requested (if_pos called) (fun _ _ found => found)
      · have allowed : PlacementAllowed py system.broker
            (safetyGuard.getD system.broker.defaultGuard) intent config approval risk :=
          (placeOrder_ok_iff_called system.broker).mp called
        refine sound.placed rfl (if_neg called) ?_
        intro id recorded
        obtain ⟨rfl, found⟩ := recordedId_eq_some recorded
        exact once allowed found

/-- A session with a new gate and no placed orders. -/
structure NewSession (system : PilotSystem) : Prop where
  requests : system.gate.requests = OrderedDict.empty
  decisions : system.gate.decisions = OrderedDict.empty
  requested : system.requested = OrderedDict.empty
  placements : system.placements = []

theorem NewSession.soundUse {system : PilotSystem} (session : NewSession system) :
    SoundUse system := by
  have unused (id : String) : usesOf system id = [] := by
    unfold usesOf
    rw [session.placements]
    rfl
  constructor
  · intro id
    rw [unused]
    exact Nat.zero_le 1
  · intro id placement member
    rw [unused] at member
    cases member

theorem presentedOnce_of_soundUse {system : PilotSystem} {event : PilotEvent}
    (after : SoundUse (pilotStep py kite system event)) : PresentedOnce py system event := by
  cases event with
  | placeOrder intent config approval risk safetyGuard =>
      intro allowed recorded
      have called : (system.broker.placeOrder py kite intent config approval risk
          safetyGuard).2.placed ≠ system.broker.placed :=
        (placeOrder_ok_iff_called system.broker).mpr allowed
      have placements : (pilotStep py kite system
            (.placeOrder intent config approval risk safetyGuard)).placements =
          system.placements ++
            [{ approvalId := recordedId system.gate approval, intent := intent }] :=
        if_neg called
      have own : recordedId system.gate approval = some approval.approvalId := if_pos recorded
      have uses := usesOf_append placements approval.approvalId
      rw [if_pos own] at uses
      constructor
      · intro other member same
        have used : other ∈ usesOf system approval.approvalId := by
          simp [usesOf, member, same]
        have single := after.single approval.approvalId
        rw [uses, List.length_append, List.length_singleton] at single
        have positive := List.length_pos_of_mem used
        omega
      · apply after.bound approval.approvalId
          { approvalId := recordedId system.gate approval, intent := intent }
        rw [uses]
        exact List.mem_append_right _ (List.mem_singleton_self _)
  | _ => trivial

/-! ### The executor -/

/-- The executor asks for the approval and presents it in the same call, for the same
intent, so its calls meet the condition. -/
theorem presentedOnce_after_requireApproval {system : PilotSystem} (sound : SoundUse system)
    (mode : system.gate.mode = .autoPaper) (now decidedAt : Datetime) {id : String}
    (fresh : system.requested.get? id = none) (intent : OrderIntent)
    (estimatedPrice : Option ℚ) (reason : Option String) (config : LivePilotConfig)
    (risk : Option RiskDecision) (safetyGuard : Option LiveExecutionSafetyGuard) :
    PresentedOnce py
      (pilotStep py kite system (.requireApproval now decidedAt id intent estimatedPrice reason))
      (.placeOrder intent config (system.gate.paperDecision decidedAt id reason) risk
        safetyGuard) := by
  intro _ _
  constructor
  · intro placement member same
    have used : placement ∈ usesOf system id := by
      have kept : placement ∈ system.placements := member
      have own : placement.approvalId = some id := same
      simp [usesOf, kept, own]
    rw [sound.bound id placement used] at fresh
    cases fresh
  · show (if system.gate.mode = .autoLive then system.requested
      else system.requested.insert id intent).get? id = some intent
    rw [mode, if_neg (by decide), OrderedDict.get?_insert, if_pos rfl]

/-! ### The run theorem -/

theorem pilotStep_soundUse_iff {system : PilotSystem} {event : PilotEvent}
    (fresh : FreshIds system event) (sound : SoundUse system) :
    SoundUse (pilotStep py kite system event) ↔ PresentedOnce py system event :=
  ⟨presentedOnce_of_soundUse, fun once => pilotStep_keeps fresh once sound⟩

theorem approvals_bound_and_single_use (py : Python) (kite : KiteClient) (system : PilotSystem)
    (session : NewSession system) (events : List PilotEvent)
    (admissible : EventRun.Admissible (pilotStep py kite)
      (fun system event => FreshIds system event ∧ PresentedOnce py system event) system
      events) (earlier later : List PilotEvent) (split : events = earlier ++ later) :
    BoundSingleUse (EventRun.run (pilotStep py kite) system earlier) := by
  subst split
  obtain ⟨reached, _⟩ := (EventRun.admissible_append _ _ _).mp admissible
  have sound := EventRun.run_invariant SoundUse
    (fun _ _ allowed sound => (pilotStep_soundUse_iff allowed.1 sound).mpr allowed.2) reached
    session.soundUse
  exact sound.boundSingleUse

def pilotSystem : PilotSystem :=
  { gate := paperGate
    broker := connectedBroker
    requested := OrderedDict.empty
    placements := [] }

def sampleApproval : ApprovalDecision :=
  paperGate.paperDecision 0 "approval_1" none

def otherIntent : OrderIntent :=
  { sampleIntent with symbol := "TCS" }

def placeWith (intent : OrderIntent) : PilotEvent :=
  .placeOrder intent pilotConfig sampleApproval none (some liveGuard)

def requestSample : PilotEvent :=
  .requireApproval 0 0 "approval_1" sampleIntent none none

theorem newSession_pilotSystem : NewSession pilotSystem :=
  { requests := rfl
    decisions := rfl
    requested := rfl
    placements := rfl }

theorem approval_used_once :
    BoundSingleUse (EventRun.run (pilotStep Python.ascii acceptingKite) pilotSystem
      [requestSample, placeWith sampleIntent]) :=
  approvals_bound_and_single_use Python.ascii acceptingKite pilotSystem newSession_pilotSystem
    [requestSample, placeWith sampleIntent]
    ⟨⟨rfl, trivial⟩, ⟨trivial, presentedOnce_after_requireApproval
      newSession_pilotSystem.soundUse rfl 0 0 rfl sampleIntent none none pilotConfig none
      (some liveGuard)⟩, trivial⟩
    [requestSample, placeWith sampleIntent] [] rfl

/-- One approval for ten shares of one symbol places a second order for another symbol. -/
theorem approval_used_twice :
    EventRun.Admissible (pilotStep Python.ascii acceptingKite) FreshIds pilotSystem
        [requestSample, placeWith sampleIntent, placeWith otherIntent] ∧
      ¬ BoundSingleUse (EventRun.run (pilotStep Python.ascii acceptingKite) pilotSystem
        [requestSample, placeWith sampleIntent, placeWith otherIntent]) := by
  refine ⟨⟨rfl, trivial, trivial, trivial⟩, ?_⟩
  intro bound
  have single := (bound "approval_1" sampleApproval rfl rfl).1
  revert single
  decide

end TradingEngine.LiveExecution
