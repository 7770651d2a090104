/-
The safety guard in front of every live order.

`assertPilotOrderAllowed` runs the checks in order and raises at the first that
fails.  `PilotOrderAllowed` lists what they check.
-/

import TradingEngine.LiveExecution.Approvals

namespace TradingEngine.LiveExecution

open Domain
open Signals (Side)

/-- The settings that the live path reads. -/
structure Settings where
  liveTradingEnabled : Bool
deriving DecidableEq

structure KillSwitch where
  active : Bool
  reason : Option String
deriving DecidableEq

structure LivePilotConfig where
  liveOrderExecutionEnabled : Bool
  liveOrderPilotEnabled : Bool
  maxOrderQuantity : ℤ
  allowedSymbols : List String
  allowedExchange : String
  allowedProduct : String
  allowedOrderTypes : List String
deriving DecidableEq

/-- Settings without the flag count as disabled. -/
structure LiveExecutionSafetyGuard where
  settings : Option Settings
  killSwitch : Option KillSwitch
deriving DecidableEq

namespace LiveExecutionSafetyGuard

def liveTradingEnabled (guard : LiveExecutionSafetyGuard) : Bool :=
  guard.settings.any (fun settings => settings.liveTradingEnabled)

def killSwitchActive (guard : LiveExecutionSafetyGuard) : Bool :=
  guard.killSwitch.any (fun killSwitch => killSwitch.active)

end LiveExecutionSafetyGuard

/-- A check that raises a `SafetyError` with this text unless it holds. -/
def ensure (holds : Bool) (message : String) : Except EngineError Unit :=
  if holds then .ok () else .error (.safety message)

def killSwitchText (py : Python) (guard : LiveExecutionSafetyGuard) : String :=
  "Kill switch is active — reason: " ++
    ((guard.killSwitch.bind (fun killSwitch => killSwitch.reason)).elim "None" py.repr) ++
    ". Deactivate the kill switch before placing live orders."

def riskBlockedText (decision : RiskDecision) : String :=
  "Risk engine blocked this order: " ++ decision.reasonCode.text ++ " — " ++
    decision.reasonMessage

def checkLiveTrading (guard : LiveExecutionSafetyGuard) : Except EngineError Unit :=
  ensure guard.liveTradingEnabled
    ("LIVE_TRADING_ENABLED is False. " ++
      "Set LIVE_TRADING_ENABLED=true to enable live order placement. " ++
      "This flag must be explicitly set alongside LIVE_ORDER_EXECUTION_ENABLED " ++
      "and LIVE_ORDER_PILOT_ENABLED.")

def checkExecutionFlag (config : LivePilotConfig) : Except EngineError Unit :=
  ensure config.liveOrderExecutionEnabled
    ("LIVE_ORDER_EXECUTION_ENABLED is False. Set it to true to enable live order placement.")

def checkPilotFlag (config : LivePilotConfig) : Except EngineError Unit :=
  ensure config.liveOrderPilotEnabled
    "LIVE_ORDER_PILOT_ENABLED is False. Set it to true to enable the live order pilot."

def checkRisk : Option RiskDecision → Except EngineError Unit
  | none => .ok ()
  | some decision => ensure decision.approved (riskBlockedText decision)

def checkApproval (decision : ApprovalDecision) : Except EngineError Unit :=
  ensure (decision.status = .approved)
    ("Order approval status is " ++ decision.status.repr ++ ", not APPROVED. " ++
      "The order must be explicitly approved before placement.")

def checkSymbol (py : Python) (intent : OrderIntent) (config : LivePilotConfig) :
    Except EngineError Unit := do
  ensure (config.allowedSymbols ≠ [])
    ("LIVE_ALLOWED_SYMBOLS is empty — no symbols are permitted. " ++
      "Add at least one symbol to the whitelist.")
  ensure (py.upper intent.symbol ∈ config.allowedSymbols.map py.upper)
    ("Symbol " ++ py.repr (py.upper intent.symbol) ++ " is not in the allowed symbols list: " ++
      py.reprList (config.allowedSymbols.map py.upper) ++ ".")

def checkExchange (py : Python) (intent : OrderIntent) (config : LivePilotConfig) :
    Except EngineError Unit :=
  ensure (py.upper intent.exchange = py.upper config.allowedExchange)
    ("Exchange " ++ py.repr (py.upper intent.exchange) ++ " is not the allowed exchange " ++
      py.repr (py.upper config.allowedExchange) ++ ".")

def checkProduct (py : Python) (intent : OrderIntent) (config : LivePilotConfig) :
    Except EngineError Unit :=
  ensure (py.upper intent.product.text = py.upper config.allowedProduct)
    ("Product " ++ py.repr (py.upper intent.product.text) ++ " is not the allowed product " ++
      py.repr (py.upper config.allowedProduct) ++ ".")

def checkOrderType (py : Python) (intent : OrderIntent) (config : LivePilotConfig) :
    Except EngineError Unit :=
  ensure (py.upper intent.orderType.text ∈ config.allowedOrderTypes.map py.upper)
    ("Order type " ++ py.repr (py.upper intent.orderType.text) ++
      " is not in allowed order types: " ++
      py.reprList (config.allowedOrderTypes.map py.upper) ++ ".")

def checkQuantity (intent : OrderIntent) (config : LivePilotConfig) : Except EngineError Unit :=
  ensure (intent.quantity ≤ config.maxOrderQuantity)
    ("Order quantity " ++ toString intent.quantity ++ " exceeds the pilot maximum " ++
      toString config.maxOrderQuantity ++ ".")

def assertPilotOrderAllowed (py : Python) (guard : LiveExecutionSafetyGuard)
    (intent : OrderIntent) (config : LivePilotConfig) (approval : ApprovalDecision)
    (risk : Option RiskDecision) : Except EngineError Unit := do
  checkLiveTrading guard
  checkExecutionFlag config
  checkPilotFlag config
  ensure (¬ guard.killSwitchActive) (killSwitchText py guard)
  checkRisk risk
  checkApproval approval
  checkSymbol py intent config
  checkExchange py intent config
  checkProduct py intent config
  checkOrderType py intent config
  checkQuantity intent config

/-! ### What the checks require -/

/-- The symbol, exchange, product, order type and quantity that the configuration allows. -/
structure WithinWhitelists (py : Python) (config : LivePilotConfig)
    (symbol exchange product orderType : String) (quantity : ℤ) : Prop where
  symbol : py.upper symbol ∈ config.allowedSymbols.map py.upper
  exchange : py.upper exchange = py.upper config.allowedExchange
  product : py.upper product = py.upper config.allowedProduct
  orderType : py.upper orderType ∈ config.allowedOrderTypes.map py.upper
  quantity : quantity ≤ config.maxOrderQuantity

/-- What the guard requires of the settings, the configuration and the intent. -/
structure GuardOpen (py : Python) (guard : LiveExecutionSafetyGuard) (intent : OrderIntent)
    (config : LivePilotConfig) : Prop where
  liveTradingEnabled : guard.liveTradingEnabled = true
  executionEnabled : config.liveOrderExecutionEnabled = true
  pilotEnabled : config.liveOrderPilotEnabled = true
  killSwitchOff : guard.killSwitchActive = false
  whitelisted : WithinWhitelists py config intent.symbol intent.exchange intent.product.text
    intent.orderType.text intent.quantity

structure PilotOrderAllowed (py : Python) (guard : LiveExecutionSafetyGuard)
    (intent : OrderIntent) (config : LivePilotConfig) (approval : ApprovalDecision)
    (risk : Option RiskDecision) : Prop where
  guardOpen : GuardOpen py guard intent config
  riskApproved : ∀ decision, risk = some decision → decision.approved = true
  approved : approval.status = .approved

theorem ensure_bind_eq_ok_iff {holds : Bool} {message : String}
    {rest : Except EngineError Unit} :
    (ensure holds message >>= fun _ => rest) = .ok () ↔ holds = true ∧ rest = .ok () := by
  cases holds with
  | false => exact ⟨nofun, fun both => nomatch both.1⟩
  | true => exact ⟨fun ok => ⟨rfl, ok⟩, fun both => both.2⟩

theorem ensure_eq_ok_iff {holds : Bool} {message : String} :
    ensure holds message = .ok () ↔ holds = true := by
  cases holds with
  | false => exact ⟨nofun, nofun⟩
  | true => exact ⟨fun _ => rfl, fun _ => rfl⟩

theorem checkRisk_bind_eq_ok_iff {risk : Option RiskDecision} {rest : Except EngineError Unit} :
    (checkRisk risk >>= fun _ => rest) = .ok () ↔
      (∀ decision, risk = some decision → decision.approved = true) ∧ rest = .ok () := by
  cases risk with
  | none => exact ⟨fun ok => ⟨nofun, ok⟩, fun both => both.2⟩
  | some decision =>
      rw [checkRisk, ensure_bind_eq_ok_iff]
      simp

theorem checkSymbol_bind_eq_ok_iff {py : Python} {intent : OrderIntent}
    {config : LivePilotConfig} {rest : Except EngineError Unit} :
    (checkSymbol py intent config >>= fun _ => rest) = .ok () ↔
      py.upper intent.symbol ∈ config.allowedSymbols.map py.upper ∧ rest = .ok () := by
  rw [checkSymbol, bind_assoc, ensure_bind_eq_ok_iff, ensure_bind_eq_ok_iff]
  simp only [decide_eq_true_eq]
  constructor
  · rintro ⟨_, listed, ok⟩
    exact ⟨listed, ok⟩
  · rintro ⟨listed, ok⟩
    refine ⟨?_, listed, ok⟩
    intro empty
    rw [empty] at listed
    exact List.not_mem_nil listed

theorem assertPilotOrderAllowed_eq_ok_iff {py : Python} {guard : LiveExecutionSafetyGuard}
    {intent : OrderIntent} {config : LivePilotConfig} {approval : ApprovalDecision}
    {risk : Option RiskDecision} :
    assertPilotOrderAllowed py guard intent config approval risk = .ok () ↔
      PilotOrderAllowed py guard intent config approval risk := by
  unfold assertPilotOrderAllowed checkLiveTrading checkExecutionFlag checkPilotFlag
    checkApproval checkExchange checkProduct checkOrderType checkQuantity
  simp only [ensure_bind_eq_ok_iff, checkRisk_bind_eq_ok_iff, checkSymbol_bind_eq_ok_iff,
    ensure_eq_ok_iff, decide_eq_true_eq, Bool.not_eq_true]
  constructor
  · rintro ⟨live, execution, pilot, killSwitch, riskApproved, approved, symbol, exchange, product,
      orderType, quantity⟩
    exact ⟨⟨live, execution, pilot, killSwitch, symbol, exchange, product, orderType, quantity⟩,
      riskApproved, approved⟩
  · rintro ⟨⟨live, execution, pilot, killSwitch, ⟨symbol, exchange, product, orderType,
      quantity⟩⟩, riskApproved, approved⟩
    exact ⟨live, execution, pilot, killSwitch, riskApproved, approved, symbol, exchange, product,
      orderType, quantity⟩

end TradingEngine.LiveExecution
