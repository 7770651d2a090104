/-
Sessions of the live pilot after a preflight.

A session is a run of calls of the executor whose configuration, guard and kill switch come from
the settings that the preflight has looked at.  Between the calls the operator may use the kill
switch.
-/

import TradingEngine.General.EventRun
import TradingEngine.LiveExecution.Gating
import TradingEngine.LiveExecution.Preflight
import TradingEngine.Risk.RiskEngine

namespace TradingEngine.LiveExecution

open Domain Broker ZerodhaBroker

variable {ρ : Type} {py : Python} {kite : KiteClient} {check : Option (RiskCheck ρ)}

inductive SessionEvent where
  | execute (clock : CallClock) (intent : OrderIntent) (snapshot : Option PortfolioSnapshot)
      (estimatedPrice : Option ℚ)
  | activate (reason : String)
  | deactivate

namespace KillSwitch

/-- The switch of the risk engine, which both guards read. -/
def ofRisk (killSwitch : Risk.KillSwitch) : KillSwitch :=
  { active := killSwitch.active
    reason := killSwitch.reason }

def toRisk (killSwitch : KillSwitch) : Risk.KillSwitch :=
  { active := killSwitch.active
    reason := killSwitch.reason }

def activate (py : Python) (reason : String) (killSwitch : KillSwitch) : KillSwitch :=
  ofRisk (killSwitch.toRisk.activate py reason).2

def deactivate (killSwitch : KillSwitch) : KillSwitch :=
  ofRisk killSwitch.toRisk.deactivate

end KillSwitch

/-- The guard holds the switch itself, so what happens to the switch happens to the guard. -/
def LiveExecutionSafetyGuard.mapKillSwitch (change : KillSwitch → KillSwitch)
    (guard : LiveExecutionSafetyGuard) : LiveExecutionSafetyGuard :=
  { guard with killSwitch := guard.killSwitch.map change }

def sessionStep (py : Python) (kite : KiteClient) (check : Option (RiskCheck ρ))
    (executor : LiveOrderPilotExecutor ρ) : SessionEvent → LiveOrderPilotExecutor ρ
  | .execute clock intent snapshot estimatedPrice =>
      (executor.execute py kite check clock intent snapshot estimatedPrice).2
  | .activate reason =>
      { executor with guard := executor.guard.mapKillSwitch (KillSwitch.activate py reason) }
  | .deactivate =>
      { executor with guard := executor.guard.mapKillSwitch KillSwitch.deactivate }

def SessionEvent.isCall : SessionEvent → Bool
  | .execute .. => true
  | .activate _ => false
  | .deactivate => false

/-! ### What no event changes -/

/-- The configuration, the settings, the approval mode and the connection. -/
structure SameSetup (before after : LiveOrderPilotExecutor ρ) : Prop where
  config : after.config = before.config
  settings : after.guard.settings = before.guard.settings
  mode : after.gate.mode = before.gate.mode
  connected : after.broker.connected = before.broker.connected

theorem SameSetup.refl (executor : LiveOrderPilotExecutor ρ) : SameSetup executor executor :=
  ⟨rfl, rfl, rfl, rfl⟩

theorem SameSetup.trans {first second third : LiveOrderPilotExecutor ρ}
    (earlier : SameSetup first second) (later : SameSetup second third) :
    SameSetup first third :=
  ⟨later.config.trans earlier.config, later.settings.trans earlier.settings,
    later.mode.trans earlier.mode, later.connected.trans earlier.connected⟩

theorem placeOrder_connected (broker : ZerodhaBroker) (intent : OrderIntent)
    (config : LivePilotConfig) (approval : ApprovalDecision) (risk : Option RiskDecision)
    (guard : LiveExecutionSafetyGuard) :
    (placeOrder py kite broker intent config approval risk (some guard)).2.connected =
      broker.connected := by
  by_cases allowed : PlacementAllowed py broker guard intent config approval risk
  · rw [placeOrder_of_allowed allowed]
  · have refused : ∃ exception,
        placeOrder py kite broker intent config approval risk (some guard) =
          (.error exception, broker) :=
      placeOrder_of_not_allowed allowed
    obtain ⟨exception, result⟩ := refused
    rw [result]

theorem executeChecked_sameSetup (executor : LiveOrderPilotExecutor ρ) (clock : CallClock)
    (intent : OrderIntent) (estimatedPrice : Option ℚ) (risk : Option RiskDecision) :
    SameSetup executor
      (executor.executeChecked py kite clock intent estimatedPrice risk).2 := by
  cases mode : executor.gate.mode with
  | manualApprove =>
      simp only [LiveOrderPilotExecutor.executeChecked, ApprovalGate.requireApproval, mode]
      exact ⟨rfl, rfl, rfl, rfl⟩
  | autoLive =>
      simp only [LiveOrderPilotExecutor.executeChecked, ApprovalGate.requireApproval, mode]
      exact SameSetup.refl executor
  | autoPaper =>
      have connected :
          (executor.executeChecked py kite clock intent estimatedPrice risk).2.broker.connected =
            executor.broker.connected := by
        rw [LiveOrderPilotExecutor.executeChecked_broker_of_autoPaper mode,
          placeOrder_connected]
      refine ⟨?_, ?_, ?_, connected⟩
      · simp only [LiveOrderPilotExecutor.executeChecked, ApprovalGate.requireApproval, mode]
        split <;> rfl
      · simp only [LiveOrderPilotExecutor.executeChecked, ApprovalGate.requireApproval, mode]
        split <;> rfl
      · simp only [LiveOrderPilotExecutor.executeChecked, ApprovalGate.requireApproval, mode]
        split <;> exact mode

theorem execute_sameSetup (executor : LiveOrderPilotExecutor ρ) (clock : CallClock)
    (intent : OrderIntent) (snapshot : Option PortfolioSnapshot) (estimatedPrice : Option ℚ) :
    SameSetup executor
      (executor.execute py kite check clock intent snapshot estimatedPrice).2 := by
  cases snapshot with
  | none =>
      rw [execute_without_snapshot]
      exact executeChecked_sameSetup executor clock intent estimatedPrice none
  | some given =>
      cases check with
      | none => exact executeChecked_sameSetup executor clock intent estimatedPrice none
      | some engine =>
          rcases execute_with_snapshot py kite engine clock executor intent given
              estimatedPrice with
            ⟨outcome, riskState, result⟩ | ⟨decision, riskState, _, _, result⟩
          · rw [result]
            exact ⟨rfl, rfl, rfl, rfl⟩
          · rw [result]
            have kept : SameSetup executor { executor with riskState := riskState } :=
              ⟨rfl, rfl, rfl, rfl⟩
            exact kept.trans (executeChecked_sameSetup { executor with riskState := riskState }
              clock intent estimatedPrice (some decision))

theorem sessionStep_sameSetup (executor : LiveOrderPilotExecutor ρ) (event : SessionEvent) :
    SameSetup executor (sessionStep py kite check executor event) := by
  cases event with
  | execute clock intent snapshot estimatedPrice =>
      exact execute_sameSetup executor clock intent snapshot estimatedPrice
  | activate reason => exact ⟨rfl, rfl, rfl, rfl⟩
  | deactivate => exact ⟨rfl, rfl, rfl, rfl⟩

/-! ### What a session sends -/

/-- An order can go out with these parameters: the gate approves on its own, the broker is
connected, and a guard over the same settings is open for the intent. -/
structure Sendable (py : Python) (executor : LiveOrderPilotExecutor ρ) (params : KiteParams) :
    Prop where
  mode : executor.gate.mode = .autoPaper
  connected : executor.broker.connected = true
  guardOpen : ∃ guard intent, guard.settings = executor.guard.settings ∧
    GuardOpen py guard intent executor.config ∧ params = kiteParams py intent

theorem Sendable.of_sameSetup {before after : LiveOrderPilotExecutor ρ} {params : KiteParams}
    (same : SameSetup before after) (sendable : Sendable py after params) :
    Sendable py before params := by
  obtain ⟨mode, connected, guard, intent, settings, guardOpen, made⟩ := sendable
  rw [same.config] at guardOpen
  exact ⟨same.mode.symm.trans mode, same.connected.symm.trans connected, guard, intent,
    settings.trans same.settings, guardOpen, made⟩

/-- Sent by one event: nothing, or one order of a call. -/
structure Sends (py : Python) (executor : LiveOrderPilotExecutor ρ) (event : SessionEvent)
    (after : LiveOrderPilotExecutor ρ) (sent : List KiteParams) : Prop where
  placed : after.broker.placed = executor.broker.placed ++ sent
  at_most_one : sent.length ≤ if event.isCall then 1 else 0
  sendable : ∀ params ∈ sent, Sendable py executor params

theorem execute_sends (executor : LiveOrderPilotExecutor ρ) (clock : CallClock)
    (intent : OrderIntent) (snapshot : Option PortfolioSnapshot) (estimatedPrice : Option ℚ) :
    ∃ sent, Sends py executor (.execute clock intent snapshot estimatedPrice)
      (executor.execute py kite check clock intent snapshot estimatedPrice).2 sent := by
  have nothing {after : LiveOrderPilotExecutor ρ} (untouched : after.broker = executor.broker) :
      Sends py executor (.execute clock intent snapshot estimatedPrice) after [] :=
    { placed := by rw [untouched, List.append_nil]
      at_most_one := Nat.zero_le _
      sendable := nofun }
  cases execute_brokerUse py kite check clock executor intent snapshot estimatedPrice with
  | none untouched => exact ⟨[], nothing untouched⟩
  | once mode risk placed =>
      by_cases allowed : PlacementAllowed py executor.broker executor.guard intent
          executor.config (executor.callDecision clock) risk
      · refine ⟨[kiteParams py intent], ?_, le_refl 1, ?_⟩
        · rw [placed, placeOrder_of_allowed allowed]
        · intro params member
          exact ⟨mode, allowed.connected, executor.guard, intent, rfl, allowed.allowed.guardOpen,
            List.mem_singleton.mp member⟩
      · have refused : ∃ exception, executor.broker.placeOrder py kite intent executor.config
            (executor.callDecision clock) risk (some executor.guard) =
              (.error exception, executor.broker) :=
          placeOrder_of_not_allowed allowed
        obtain ⟨exception, result⟩ := refused
        rw [result] at placed
        exact ⟨[], nothing placed⟩

theorem sessionStep_sends (executor : LiveOrderPilotExecutor ρ) (event : SessionEvent) :
    ∃ sent, Sends py executor event (sessionStep py kite check executor event) sent := by
  have nothing {after : LiveOrderPilotExecutor ρ} (untouched : after.broker = executor.broker) :
      Sends py executor event after [] :=
    { placed := by rw [untouched, List.append_nil]
      at_most_one := Nat.zero_le _
      sendable := nofun }
  cases event with
  | execute clock intent snapshot estimatedPrice =>
      exact execute_sends executor clock intent snapshot estimatedPrice
  | activate reason => exact ⟨[], nothing rfl⟩
  | deactivate => exact ⟨[], nothing rfl⟩

/-- Sent by a run: one order per call at most, each of which can go out. -/
structure RunSends (py : Python) (executor : LiveOrderPilotExecutor ρ)
    (events : List SessionEvent) (after : LiveOrderPilotExecutor ρ) (sent : List KiteParams) :
    Prop where
  placed : after.broker.placed = executor.broker.placed ++ sent
  at_most_calls : sent.length ≤ events.countP SessionEvent.isCall
  sendable : ∀ params ∈ sent, Sendable py executor params

theorem run_sends (executor : LiveOrderPilotExecutor ρ) (events : List SessionEvent) :
    ∃ sent, RunSends py executor events
      (EventRun.run (sessionStep py kite check) executor events) sent := by
  induction events generalizing executor with
  | nil =>
      exact ⟨[], { placed := (List.append_nil _).symm
                   at_most_calls := Nat.zero_le _
                   sendable := nofun }⟩
  | cons event rest ih =>
      have head : ∃ sent, Sends py executor event
          (sessionStep py kite check executor event) sent := sessionStep_sends executor event
      obtain ⟨first, now⟩ := head
      obtain ⟨others, later⟩ := ih (sessionStep py kite check executor event)
      refine ⟨first ++ others, ?_, ?_, ?_⟩
      · rw [EventRun.run_cons, later.placed, now.placed, List.append_assoc]
      · rw [List.length_append, List.countP_cons]
        have bound := now.at_most_one
        have bounds := later.at_most_calls
        omega
      · intro params member
        rcases List.mem_append.mp member with sentNow | sentLater
        · exact now.sendable params sentNow
        · exact (later.sendable params sentLater).of_sameSetup
            (sessionStep_sameSetup executor event)

/-! ### Sessions over the settings of a preflight -/

namespace LivePilotPreflightChecker

variable (checker : LivePilotPreflightChecker)

/-- The executor of the session: only the broker, the gate, the audit log and the risk engine
come from elsewhere. -/
def openSession (broker : ZerodhaBroker) (gate : ApprovalGate)
    (auditLog : Option (List AuditRecord)) (riskState : ρ) : LiveOrderPilotExecutor ρ :=
  { broker := broker
    config := checker.config
    gate := gate
    guard := checker.guard
    auditLog := auditLog
    riskState := riskState }

theorem of_sendable {broker : ZerodhaBroker} {gate : ApprovalGate}
    {auditLog : Option (List AuditRecord)} {riskState : ρ} {params : KiteParams}
    (sendable : Sendable py (checker.openSession broker gate auditLog riskState) params) :
    checker.SettingsPassable py ∧ ParamsWithin py checker.config params := by
  obtain ⟨_, _, guard, intent, settings, guardOpen, made⟩ := sendable
  rw [made]
  exact ⟨settingsPassable_of_guardOpen settings guardOpen, paramsWithin_of_guardOpen guardOpen⟩

theorem exists_sending_run (broker : ZerodhaBroker) (gate : ApprovalGate)
    (auditLog : Option (List AuditRecord)) (riskState : ρ)
    (mode : gate.mode = .autoPaper) (connected : broker.connected = true)
    {intent : OrderIntent} (guardOpen : GuardOpen py checker.guard intent checker.config) :
    ∃ events, (EventRun.run (sessionStep py kite check)
      (checker.openSession broker gate auditLog riskState) events).broker.placed ≠
        broker.placed := by
  let clock : CallClock :=
    { ts := 0
      requestedAt := 0
      decidedAt := 0
      approvalId := "" }
  refine ⟨[.execute clock intent none none], ?_⟩
  rw [EventRun.run_cons, EventRun.run_nil]
  unfold sessionStep
  dsimp only
  rw [execute_without_snapshot]
  refine LiveOrderPilotExecutor.executeChecked_places_iff.mpr ⟨mode, connected, guardOpen, ?_, rfl⟩
  intro decision given
  cases given

/-- What a preflight says about the sessions over its settings. -/
structure Decides (py : Python) (kite : KiteClient) (check : Option (RiskCheck ρ))
    (files : FileSystem) (broker : ZerodhaBroker) (gate : ApprovalGate)
    (auditLog : Option (List AuditRecord)) (riskState : ρ) : Prop where
  passed_iff : (checker.run py files).passed = true ↔ checker.Ready py
  allowed_iff : (checker.run py files).passed = true → ∀ intent approval risk,
    (assertPilotOrderAllowed py checker.guard intent checker.config approval risk = .ok () ↔
      WithinWhitelists py checker.config intent.symbol intent.exchange intent.product.text
        intent.orderType.text intent.quantity ∧
      (∀ decision, risk = some decision → decision.approved = true) ∧
      approval.status = .approved)
  sends : ∀ events, ∃ sent,
    (EventRun.run (sessionStep py kite check)
      (checker.openSession broker gate auditLog riskState) events).broker.placed =
        broker.placed ++ sent ∧
    sent.length ≤ events.countP SessionEvent.isCall ∧
    ∀ params ∈ sent, checker.SettingsPassable py ∧ ParamsWithin py checker.config params ∧
      ((checker.run py files).passed = true → params.quantity ≤ warnQuantityThreshold)
  possible : (checker.run py files).passed = true →
    ((∃ events, (EventRun.run (sessionStep py kite check)
        (checker.openSession broker gate auditLog riskState) events).broker.placed ≠
          broker.placed) ↔
      checker.Tradable py ∧ gate.mode = .autoPaper ∧ broker.connected = true)

theorem preflight_decides (py : Python) (kite : KiteClient) (check : Option (RiskCheck ρ))
    (files : FileSystem) (broker : ZerodhaBroker) (gate : ApprovalGate)
    (auditLog : Option (List AuditRecord)) (riskState : ρ) :
    checker.Decides py kite check files broker gate auditLog riskState := by
  have sends (events : List SessionEvent) : ∃ sent, RunSends py
      (checker.openSession broker gate auditLog riskState) events
      (EventRun.run (sessionStep py kite check)
        (checker.openSession broker gate auditLog riskState) events) sent :=
    run_sends _ events
  refine
    { passed_iff := passed_run_iff py files checker
      allowed_iff := ?_
      sends := ?_
      possible := ?_ }
  · intro passed
    exact ((passed_run_iff py files checker).mp passed).allowed_iff
  · intro events
    obtain ⟨sent, made⟩ := sends events
    refine ⟨sent, made.placed, made.at_most_calls, ?_⟩
    intro params member
    obtain ⟨passable, within⟩ := checker.of_sendable (made.sendable params member)
    refine ⟨passable, within, ?_⟩
    intro passed
    exact within.quantity.trans ((passed_run_iff py files checker).mp passed).quantity_small
  · intro passed
    have ready := (passed_run_iff py files checker).mp passed
    constructor
    · intro ⟨events, moved⟩
      obtain ⟨sent, made⟩ := sends events
      cases sent with
      | nil => exact absurd (made.placed.trans (List.append_nil _)) moved
      | cons params rest =>
          have sendable := made.sendable params List.mem_cons_self
          exact ⟨(checker.of_sendable sendable).1.tradable, sendable.mode, sendable.connected⟩
    · intro ⟨tradable, mode, connected⟩
      have killSwitchOff := checker.killSwitchActive_guard.mpr ready.killSwitchOff
      obtain ⟨intent, guardOpen⟩ :=
        (ready.settingsPassable tradable).exists_guardOpen killSwitchOff
      exact checker.exists_sending_run broker gate auditLog riskState mode connected guardOpen

end LivePilotPreflightChecker

end TradingEngine.LiveExecution
