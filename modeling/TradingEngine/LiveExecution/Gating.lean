/-
What stands between an intent and a call of `kite.place_order`.

The broker calls Kite exactly when the guard allows the order, and the executor
reaches the broker only with a decision that its gate has just recorded.  The risk
engine is asked only when a snapshot is given.
-/

import TradingEngine.LiveExecution.PilotExecutor

namespace TradingEngine.LiveExecution

open Domain Broker ZerodhaBroker

variable {ρ : Type} {py : Python} {kite : KiteClient}

/-! ### Parameters -/

/-- The parameters of a call lie within the configuration. -/
structure ParamsWithin (py : Python) (config : LivePilotConfig) (params : KiteParams) : Prop where
  tradingsymbol : params.tradingsymbol ∈ config.allowedSymbols.map py.upper
  exchange : params.exchange = py.upper config.allowedExchange
  product : params.product = py.upper config.allowedProduct
  orderType : params.orderType ∈ config.allowedOrderTypes.map py.upper
  quantity : params.quantity ≤ config.maxOrderQuantity

theorem paramsWithin_of_guardOpen {guard : LiveExecutionSafetyGuard} {intent : OrderIntent}
    {config : LivePilotConfig} (guardOpen : GuardOpen py guard intent config) :
    ParamsWithin py config (kiteParams py intent) := by
  have listed := guardOpen.whitelisted
  have orderType := listed.orderType
  rw [py.upper_of_isUpperAscii _ (isUpperAscii_orderType intent.orderType)] at orderType
  exact
    { tradingsymbol := listed.symbol
      exchange := listed.exchange
      product := listed.product
      orderType := by
        show kiteOrderType py intent.orderType ∈ _
        rw [kiteOrderType_eq]
        exact orderType
      quantity := listed.quantity }

/-! ### The executor -/

namespace LiveOrderPilotExecutor

variable {executor : LiveOrderPilotExecutor ρ} {clock : CallClock} {intent : OrderIntent}
variable {estimatedPrice : Option ℚ} {risk : Option RiskDecision}

/-- The decision that the gate records for a call in `AUTO_PAPER` mode. -/
def callDecision (executor : LiveOrderPilotExecutor ρ) (clock : CallClock) : ApprovalDecision :=
  executor.gate.paperDecision clock.decidedAt clock.approvalId none

theorem executeChecked_broker_of_autoPaper (mode : executor.gate.mode = .autoPaper) :
    (executor.executeChecked py kite clock intent estimatedPrice risk).2.broker =
      (executor.broker.placeOrder py kite intent executor.config (executor.callDecision clock)
        risk (some executor.guard)).2 := by
  simp only [executeChecked, ApprovalGate.requireApproval, mode]
  split
  · rename_i result
    exact (congrArg Prod.snd result).symm
  · rename_i result
    exact (congrArg Prod.snd result).symm

theorem executeChecked_broker_of_not_autoPaper (mode : executor.gate.mode ≠ .autoPaper) :
    (executor.executeChecked py kite clock intent estimatedPrice risk).2.broker =
      executor.broker := by
  cases gateMode : executor.gate.mode with
  | autoPaper => exact absurd gateMode mode
  | manualApprove => simp only [executeChecked, ApprovalGate.requireApproval, gateMode]
  | autoLive => simp only [executeChecked, ApprovalGate.requireApproval, gateMode]

theorem executeChecked_places_iff :
    (executor.executeChecked py kite clock intent estimatedPrice risk).2.broker.placed ≠
        executor.broker.placed ↔
      executor.gate.mode = .autoPaper ∧
        PlacementAllowed py executor.broker executor.guard intent executor.config
          (executor.callDecision clock) risk := by
  by_cases mode : executor.gate.mode = .autoPaper
  · rw [executeChecked_broker_of_autoPaper mode, placeOrder_ok_iff_called]
    simp [mode]
  · rw [executeChecked_broker_of_not_autoPaper mode]
    simp [mode]

end LiveOrderPilotExecutor

open LiveOrderPilotExecutor

variable {check : Option (RiskCheck ρ)} {clock : CallClock} {intent : OrderIntent}
variable {executor : LiveOrderPilotExecutor ρ} {snapshot : Option PortfolioSnapshot}
variable {estimatedPrice : Option ℚ}

/-- With an engine and a snapshot the call ends at the risk check or goes on with an
approved decision. -/
theorem execute_with_snapshot (py : Python) (kite : KiteClient) (engine : RiskCheck ρ)
    (clock : CallClock) (executor : LiveOrderPilotExecutor ρ) (intent : OrderIntent)
    (given : PortfolioSnapshot) (estimatedPrice : Option ℚ) :
    (∃ outcome riskState, executor.execute py kite (some engine) clock intent (some given)
        estimatedPrice = (outcome, { executor with riskState := riskState })) ∨
      ∃ decision riskState,
        engine executor.riskState intent given clock.ts = (.ok decision, riskState) ∧
          decision.approved = true ∧
            executor.execute py kite (some engine) clock intent (some given) estimatedPrice =
              { executor with riskState := riskState }.executeChecked py kite clock intent
                estimatedPrice (some decision) := by
  cases checked : engine executor.riskState intent given clock.ts with
  | mk outcome riskState =>
      cases outcome with
      | error exception =>
          exact Or.inl ⟨.error exception, riskState, by simp only [execute, checked]⟩
      | ok decision =>
          by_cases approved : decision.approved = true
          · exact Or.inr ⟨decision, riskState, rfl, approved, by
              simp only [execute, checked, if_pos approved]⟩
          · exact Or.inl ⟨.ok (riskBlocked decision), riskState, by
              simp only [execute, checked, if_neg approved]⟩

theorem execute_without_snapshot :
    executor.execute py kite check clock intent none estimatedPrice =
      executor.executeChecked py kite clock intent estimatedPrice none := by
  cases check <;> rfl

/-- The broker is left alone or called once through `place_order`, with a decision that the
gate has recorded in this call. -/
inductive BrokerUse (py : Python) (kite : KiteClient) (clock : CallClock)
    (executor : LiveOrderPilotExecutor ρ) (intent : OrderIntent) (after : ZerodhaBroker) :
    Prop where
  | none (untouched : after = executor.broker)
  | once (mode : executor.gate.mode = .autoPaper) (risk : Option RiskDecision)
      (placed : after = (executor.broker.placeOrder py kite intent executor.config
        (executor.callDecision clock) risk (some executor.guard)).2)

theorem executeChecked_brokerUse (executor : LiveOrderPilotExecutor ρ)
    (risk : Option RiskDecision) :
    BrokerUse py kite clock executor intent
      (executor.executeChecked py kite clock intent estimatedPrice risk).2.broker := by
  by_cases mode : executor.gate.mode = .autoPaper
  · exact .once mode risk (executeChecked_broker_of_autoPaper mode)
  · exact .none (executeChecked_broker_of_not_autoPaper mode)

theorem execute_brokerUse (py : Python) (kite : KiteClient) (check : Option (RiskCheck ρ))
    (clock : CallClock) (executor : LiveOrderPilotExecutor ρ) (intent : OrderIntent)
    (snapshot : Option PortfolioSnapshot) (estimatedPrice : Option ℚ) :
    BrokerUse py kite clock executor intent
      (executor.execute py kite check clock intent snapshot estimatedPrice).2.broker := by
  cases snapshot with
  | none =>
      rw [execute_without_snapshot]
      exact executeChecked_brokerUse executor none
  | some given =>
      cases check with
      | none => exact executeChecked_brokerUse executor none
      | some engine =>
          rcases execute_with_snapshot py kite engine clock executor intent given
              estimatedPrice with
            ⟨outcome, riskState, result⟩ | ⟨decision, riskState, _, _, result⟩
          · rw [result]
            exact .none rfl
          · rw [result]
            have used : BrokerUse py kite clock { executor with riskState := riskState } intent
                (LiveOrderPilotExecutor.executeChecked py kite clock
                  { executor with riskState := riskState } intent estimatedPrice
                    (some decision)).2.broker :=
              executeChecked_brokerUse { executor with riskState := riskState } (some decision)
            cases used with
            | none untouched => exact .none untouched
            | once mode risk placed => exact .once mode risk placed

/-! ### Exact gating -/

theorem live_order_gating (py : Python) (kite : KiteClient) :
    (∀ broker guard intent config approval risk,
      ((placeOrder py kite broker intent config approval risk (some guard)).2.placed ≠
          broker.placed ↔
        PlacementAllowed py broker guard intent config approval risk) ∧
      (PlacementAllowed py broker guard intent config approval risk →
        (placeOrder py kite broker intent config approval risk (some guard)).2.placed =
            broker.placed ++ [kiteParams py intent] ∧
          ParamsWithin py config (kiteParams py intent)) ∧
      (¬ PlacementAllowed py broker guard intent config approval risk →
        ∃ exception, placeOrder py kite broker intent config approval risk (some guard) =
          (.error exception, broker))) ∧
    ∀ (check : Option (RiskCheck ρ)) (clock : CallClock) (executor : LiveOrderPilotExecutor ρ)
      (intent : OrderIntent) (snapshot : Option PortfolioSnapshot) (estimatedPrice : Option ℚ),
      BrokerUse py kite clock executor intent
        (executor.execute py kite check clock intent snapshot estimatedPrice).2.broker := by
  constructor
  · intro broker guard intent config approval risk
    refine ⟨placeOrder_ok_iff_called broker, ?_, placeOrder_of_not_allowed⟩
    intro allowed
    refine ⟨?_, paramsWithin_of_guardOpen allowed.allowed.guardOpen⟩
    rw [placeOrder_of_allowed allowed]
  · intro check clock executor intent snapshot estimatedPrice
    exact execute_brokerUse py kite check clock executor intent snapshot estimatedPrice

/-! ### The risk check -/

def PlacesOrder (py : Python) (kite : KiteClient) (engine : RiskCheck ρ) (clock : CallClock)
    (executor : LiveOrderPilotExecutor ρ) (intent : OrderIntent)
    (snapshot : Option PortfolioSnapshot) (estimatedPrice : Option ℚ) : Prop :=
  (executor.execute py kite (some engine) clock intent snapshot estimatedPrice).2.broker.placed ≠
    executor.broker.placed

def ApprovedInCall (engine : RiskCheck ρ) (clock : CallClock)
    (executor : LiveOrderPilotExecutor ρ) (intent : OrderIntent)
    (snapshot : Option PortfolioSnapshot) : Prop :=
  ∃ given decision riskState, snapshot = some given ∧
    engine executor.riskState intent given clock.ts = (.ok decision, riskState) ∧
      decision.approved = true

theorem approvedInCall_of_placesOrder {engine : RiskCheck ρ} {given : PortfolioSnapshot}
    (places : PlacesOrder py kite engine clock executor intent (some given) estimatedPrice) :
    ApprovedInCall engine clock executor intent (some given) := by
  rcases execute_with_snapshot py kite engine clock executor intent given estimatedPrice with
    ⟨outcome, riskState, result⟩ | ⟨decision, riskState, checked, approved, _⟩
  · unfold PlacesOrder at places
    rw [result] at places
    exact absurd rfl places
  · exact ⟨given, decision, riskState, rfl, checked, approved⟩

theorem placesOrder_without_snapshot_iff {engine : RiskCheck ρ} :
    PlacesOrder py kite engine clock executor intent none estimatedPrice ↔
      executor.gate.mode = .autoPaper ∧ executor.broker.connected = true ∧
        GuardOpen py executor.guard intent executor.config := by
  unfold PlacesOrder
  rw [execute_without_snapshot, executeChecked_places_iff]
  constructor
  · rintro ⟨mode, allowed⟩
    exact ⟨mode, allowed.connected, allowed.allowed.guardOpen⟩
  · rintro ⟨mode, connected, guardOpen⟩
    exact ⟨mode, connected, guardOpen, nofun, rfl⟩

theorem not_approvedInCall_none {engine : RiskCheck ρ} :
    ¬ ApprovedInCall engine clock executor intent none := by
  rintro ⟨given, _, _, absent, _⟩
  cases absent

theorem risk_check_not_bypassed_iff (py : Python) (kite : KiteClient) (engine : RiskCheck ρ)
    (clock : CallClock) (executor : LiveOrderPilotExecutor ρ) (intent : OrderIntent)
    (snapshot : Option PortfolioSnapshot) (estimatedPrice : Option ℚ) :
    (PlacesOrder py kite engine clock executor intent snapshot estimatedPrice →
        ApprovedInCall engine clock executor intent snapshot) ↔
      snapshot ≠ none ∨ executor.gate.mode ≠ .autoPaper ∨ executor.broker.connected = false ∨
        ¬ GuardOpen py executor.guard intent executor.config := by
  cases snapshot with
  | some given => simpa using approvedInCall_of_placesOrder
  | none =>
      rw [placesOrder_without_snapshot_iff]
      simp only [not_approvedInCall_none, imp_false, not_and_or, ne_eq, not_true_eq_false, false_or,
        Bool.not_eq_true]

/-- A risk engine whose kill switch is active. -/
def killSwitchEngine : RiskCheck Unit :=
  fun state _ _ ts =>
    (.ok
      { riskDecisionId := "risk_1"
        approved := false
        reasonCode := .killSwitchActive
        reasonMessage := "Kill switch active: manual stop"
        checkedLimits := []
        timestamp := ts
        consistent := fun _ => by decide }, state)

def acceptingKite : KiteClient :=
  fun _ _ => .ok (.other "B1")

def paperGate : ApprovalGate :=
  { mode := .autoPaper
    timeout := 60
    defaultDecidedBy := some "operator_cli"
    requests := OrderedDict.empty
    decisions := OrderedDict.empty
    timeout_pos := by decide }

def pilotConfig : LivePilotConfig :=
  { liveOrderExecutionEnabled := true
    liveOrderPilotEnabled := true
    maxOrderQuantity := 10
    allowedSymbols := ["INFY", "TCS"]
    allowedExchange := "NSE"
    allowedProduct := "CNC"
    allowedOrderTypes := ["MARKET", "LIMIT"] }

def liveGuard : LiveExecutionSafetyGuard :=
  { settings := some { liveTradingEnabled := true }
    killSwitch := none }

def connectedBroker : ZerodhaBroker :=
  { settings := none
    connected := true
    placed := [] }

def pilotExecutor : LiveOrderPilotExecutor Unit :=
  { broker := connectedBroker
    config := pilotConfig
    gate := paperGate
    guard := liveGuard
    auditLog := none
    riskState := () }

def callClock : CallClock :=
  { ts := 0
    requestedAt := 0
    decidedAt := 0
    approvalId := "approval_1" }

theorem guardOpen_sampleIntent :
    GuardOpen Python.ascii liveGuard sampleIntent pilotConfig :=
  { liveTradingEnabled := rfl
    executionEnabled := rfl
    pilotEnabled := rfl
    killSwitchOff := rfl
    whitelisted :=
      { symbol := by decide
        exchange := rfl
        product := rfl
        orderType := by decide
        quantity := by decide } }

theorem unchecked_order_is_placed :
    PlacesOrder Python.ascii acceptingKite killSwitchEngine callClock pilotExecutor sampleIntent
        none none ∧
      ¬ ApprovedInCall killSwitchEngine callClock pilotExecutor sampleIntent none :=
  ⟨placesOrder_without_snapshot_iff.mpr ⟨rfl, rfl, guardOpen_sampleIntent⟩,
    not_approvedInCall_none⟩

end TradingEngine.LiveExecution
