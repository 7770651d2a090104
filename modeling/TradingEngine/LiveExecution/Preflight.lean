/-
The preflight check of a live pilot session, against the guard in front of its orders.

Both read the same settings.  `Ready` lists what the preflight asks for; a session that passes
has its orders refused only for what the guard asks of the order, its approval and its risk
decision.
-/

import TradingEngine.LiveExecution.Safety

namespace TradingEngine.LiveExecution

open Domain
open Signals (Side)

/-! ### The settings of a pilot session -/

/-- The attributes of the application's settings that the preflight and the pilot read. -/
structure PilotSettings extends Settings where
  liveOrderExecutionEnabled : Bool
  liveOrderPilotEnabled : Bool
  liveMaxOrderQuantity : ℤ
  liveAllowedSymbols : List String
  liveAllowedExchange : String
  liveAllowedProduct : String
  liveAllowedOrderTypes : List String
  zerodhaApiKey : Option String
  zerodhaApiSecret : Option String
  zerodhaAccessToken : Option String

def LivePilotConfig.fromSettings (settings : PilotSettings) : LivePilotConfig :=
  { liveOrderExecutionEnabled := settings.liveOrderExecutionEnabled
    liveOrderPilotEnabled := settings.liveOrderPilotEnabled
    maxOrderQuantity := settings.liveMaxOrderQuantity
    allowedSymbols := settings.liveAllowedSymbols
    allowedExchange := settings.liveAllowedExchange
    allowedProduct := settings.liveAllowedProduct
    allowedOrderTypes := settings.liveAllowedOrderTypes }

/-! ### Checks and reports -/

inductive CheckStatus where
  | pass
  | warn
  | fail
deriving DecidableEq

inductive CheckLevel where
  | required
  | advisory
deriving DecidableEq

structure PreflightCheck where
  name : String
  status : CheckStatus
  level : CheckLevel
  message : String
  detail : Option String
deriving DecidableEq

structure PreflightReport where
  checks : List PreflightCheck
deriving DecidableEq

namespace PreflightReport

def requiredChecks (report : PreflightReport) : List PreflightCheck :=
  report.checks.filter (fun check => check.level = .required)

def passed (report : PreflightReport) : Bool :=
  report.requiredChecks.all (fun check => check.status = .pass)

end PreflightReport

/-- What the operating system answers about paths; `pathExists` is `none` where it raises. -/
structure FileSystem where
  toPath : String → String
  parent : String → String
  isDir : String → Bool
  pathExists : String → Option Bool
  writable : String → Bool

namespace FileSystem

def creatableFrom (files : FileSystem) : ℕ → String → Bool
  | 0, _ => false
  | tries + 1, path =>
      match files.pathExists (files.parent path) with
      | none => false
      | some true => files.writable (files.parent path)
      | some false => creatableFrom files tries (files.parent path)

def isWritableOrCreatable (files : FileSystem) (path : String) : Bool :=
  match files.pathExists path with
  | none => false
  | some true => files.writable path
  | some false => files.creatableFrom 10 path

def directory (files : FileSystem) (path : String) : String :=
  if files.isDir path then path else files.parent path

end FileSystem

structure LivePilotPreflightChecker where
  settings : PilotSettings
  auditLogPath : String
  dashboardPath : Option String
  requireStaticIp : Bool
  killSwitch : Option KillSwitch

namespace LivePilotPreflightChecker

/-- The constructor; an empty path counts as none. -/
def create (files : FileSystem) (settings : PilotSettings)
    (auditLogPath dashboardPath : Option String) (requireStaticIp : Bool)
    (killSwitch : Option KillSwitch) : LivePilotPreflightChecker :=
  { settings := settings
    auditLogPath :=
      files.toPath ((auditLogPath.filter (fun path => path ≠ "")).getD "data/audit")
    dashboardPath := (dashboardPath.filter (fun path => path ≠ "")).map files.toPath
    requireStaticIp := requireStaticIp
    killSwitch := killSwitch }

def warnQuantityThreshold : ℤ := 5

/-- A required switch of the settings. -/
def flagCheck (name : String) (enabled : Bool) : PreflightCheck :=
  { name := name
    status := if enabled then .pass else .fail
    level := .required
    message := if enabled then name ++ "=true"
      else name ++ " is false — set to true for pilot."
    detail := none }

def checkFlags (checker : LivePilotPreflightChecker) : List PreflightCheck :=
  [flagCheck "LIVE_TRADING_ENABLED" checker.settings.liveTradingEnabled,
    flagCheck "LIVE_ORDER_EXECUTION_ENABLED" checker.settings.liveOrderExecutionEnabled,
    flagCheck "LIVE_ORDER_PILOT_ENABLED" checker.settings.liveOrderPilotEnabled]

def quantityCheck (maxQty : ℤ) : PreflightCheck :=
  { name := "LIVE_MAX_ORDER_QUANTITY"
    status := if maxQty ≤ 0 then .fail
      else if warnQuantityThreshold < maxQty then .warn else .pass
    level := .required
    message := if maxQty ≤ 0 then
        "LIVE_MAX_ORDER_QUANTITY=" ++ toString maxQty ++ " — must be positive."
      else if warnQuantityThreshold < maxQty then
        "LIVE_MAX_ORDER_QUANTITY=" ++ toString maxQty ++
          " — consider lowering to 1 for first pilot."
      else "LIVE_MAX_ORDER_QUANTITY=" ++ toString maxQty
    detail := none }

def symbolsCheck (py : Python) (symbols : List String) : PreflightCheck :=
  { name := "LIVE_ALLOWED_SYMBOLS"
    status := if symbols = [] then .fail else .pass
    level := .required
    message := if symbols = [] then "LIVE_ALLOWED_SYMBOLS is empty — no orders can be placed."
      else "LIVE_ALLOWED_SYMBOLS has " ++ toString symbols.length ++ " symbol(s): " ++
        py.reprList symbols
    detail := none }

def productCheck (py : Python) (product : String) : PreflightCheck :=
  { name := "LIVE_ALLOWED_PRODUCT"
    status := if py.upper product ≠ "MIS" then .warn else .pass
    level := .advisory
    message := if py.upper product ≠ "MIS" then
        "LIVE_ALLOWED_PRODUCT=" ++ py.repr (py.upper product) ++
          " — expected MIS for intraday NSE trading."
      else "LIVE_ALLOWED_PRODUCT=MIS (intraday, auto-squared at end of day)"
    detail := none }

def exchangeCheck (py : Python) (exchange : String) : PreflightCheck :=
  { name := "LIVE_ALLOWED_EXCHANGE"
    status := if py.upper exchange ≠ "NSE" then .warn else .pass
    level := .advisory
    message := if py.upper exchange ≠ "NSE" then
        "LIVE_ALLOWED_EXCHANGE=" ++ py.repr (py.upper exchange) ++
          " — expected NSE for this engine."
      else "LIVE_ALLOWED_EXCHANGE=NSE"
    detail := none }

/-- `sorted(set(order_types) - {"MARKET", "LIMIT"})`. -/
def extraTypes (orderTypes : List String) : List String :=
  ((orderTypes.filter (fun text => text ≠ "MARKET" ∧ text ≠ "LIMIT")).dedup).mergeSort (· ≤ ·)

def orderTypesCheck (py : Python) (allowed : List String) : PreflightCheck :=
  let orderTypes := allowed.map py.upper
  let extra := extraTypes orderTypes
  { name := "LIVE_ALLOWED_ORDER_TYPES"
    status := if orderTypes = [] then .fail else if extra ≠ [] then .warn else .pass
    level := if orderTypes = [] then .required else .advisory
    message := if orderTypes = [] then
        "LIVE_ALLOWED_ORDER_TYPES is empty — no orders can be placed."
      else if extra ≠ [] then
        "LIVE_ALLOWED_ORDER_TYPES contains non-standard types: " ++ py.reprList extra ++ ". " ++
          "Only MARKET and LIMIT are recommended for pilot."
      else "LIVE_ALLOWED_ORDER_TYPES=" ++ py.reprList orderTypes
    detail := none }

def checkPilotConstraints (py : Python) (checker : LivePilotPreflightChecker) :
    List PreflightCheck :=
  [quantityCheck checker.settings.liveMaxOrderQuantity,
    symbolsCheck py checker.settings.liveAllowedSymbols,
    productCheck py checker.settings.liveAllowedProduct,
    exchangeCheck py checker.settings.liveAllowedExchange,
    orderTypesCheck py checker.settings.liveAllowedOrderTypes]

def isSet (py : Python) (secret : Option String) : Bool :=
  secret.any (fun text => ¬ py.isBlank text)

def credentialCheck (label : String) (present : Bool) : PreflightCheck :=
  { name := label
    status := if present then .pass else .fail
    level := .required
    message := if present then label ++ " is set (value hidden)"
      else label ++ " is not set — required for live API calls."
    detail := none }

def checkCredentials (py : Python) (checker : LivePilotPreflightChecker) :
    List PreflightCheck :=
  [credentialCheck "ZERODHA_API_KEY" (isSet py checker.settings.zerodhaApiKey),
    credentialCheck "ZERODHA_API_SECRET" (isSet py checker.settings.zerodhaApiSecret),
    credentialCheck "ZERODHA_ACCESS_TOKEN" (isSet py checker.settings.zerodhaAccessToken)]

/-- An advisory check that a directory can be written, with its two texts. -/
def writableCheck (files : FileSystem) (name writableText otherText path : String) :
    PreflightCheck :=
  let directory := files.directory path
  let writable := files.isWritableOrCreatable directory
  { name := name
    status := if writable then .pass else .warn
    level := .advisory
    message := (if writable then writableText else otherText) ++ directory
    detail := none }

def checkFilesystem (files : FileSystem) (checker : LivePilotPreflightChecker) :
    List PreflightCheck :=
  writableCheck files "AUDIT_LOG_WRITABLE" "Audit log directory is writable: "
      "Audit log directory may not be writable: " checker.auditLogPath ::
    (checker.dashboardPath.map
      (writableCheck files "DASHBOARD_PATH_WRITABLE" "Dashboard parent directory is writable: "
        "Dashboard directory may not be writable: ")).toList

def checkKillSwitch (py : Python) (checker : LivePilotPreflightChecker) : PreflightCheck :=
  match checker.killSwitch with
  | none =>
      { name := "KILL_SWITCH"
        status := .warn
        level := .advisory
        message := "Kill switch not provided — cannot verify state. " ++
          "Pass kill_switch= to checker."
        detail := none }
  | some killSwitch =>
      { name := "KILL_SWITCH"
        status := if killSwitch.active then .fail else .pass
        level := .required
        message := if killSwitch.active then
            "Kill switch is ACTIVE — reason: " ++ killSwitch.reason.elim "None" py.repr ++
              ". Deactivate before trading."
          else "Kill switch is inactive."
        detail := none }

def checkStaticIp (checker : LivePilotPreflightChecker) : PreflightCheck :=
  { name := "STATIC_IP_CONFIRMED"
    status := .warn
    level := if checker.requireStaticIp then .required else .advisory
    message := if checker.requireStaticIp then
        "Static IP confirmation required but cannot be verified automatically. " ++
          "Confirm your public IP matches the Kite Connect whitelist before proceeding."
      else "Static IP cannot be verified automatically. " ++
        "Confirm your public IP matches your Kite Connect whitelist."
    detail := some "Use: curl -s https://api.ipify.org to check your public IP." }

def run (py : Python) (files : FileSystem) (checker : LivePilotPreflightChecker) :
    PreflightReport :=
  { checks := checker.checkFlags ++ checker.checkPilotConstraints py ++
      checker.checkCredentials py ++ checker.checkFilesystem files ++
      [checker.checkKillSwitch py] ++ [checker.checkStaticIp] }

/-! ### What a passing report says -/

/-- The required switches, limits and secrets; a static address is never confirmed. -/
structure Ready (py : Python) (checker : LivePilotPreflightChecker) : Prop where
  liveTradingEnabled : checker.settings.liveTradingEnabled = true
  executionEnabled : checker.settings.liveOrderExecutionEnabled = true
  pilotEnabled : checker.settings.liveOrderPilotEnabled = true
  quantity_pos : 0 < checker.settings.liveMaxOrderQuantity
  quantity_small : checker.settings.liveMaxOrderQuantity ≤ warnQuantityThreshold
  symbols : checker.settings.liveAllowedSymbols ≠ []
  orderTypes : checker.settings.liveAllowedOrderTypes ≠ []
  apiKey : isSet py checker.settings.zerodhaApiKey = true
  apiSecret : isSet py checker.settings.zerodhaApiSecret = true
  accessToken : isSet py checker.settings.zerodhaAccessToken = true
  killSwitchOff : ∀ killSwitch, checker.killSwitch = some killSwitch → killSwitch.active = false
  staticIpAdvisory : checker.requireStaticIp = false

/-- What the report asks of one check. -/
def Met (check : PreflightCheck) : Prop :=
  check.level = .required → check.status = .pass

theorem passed_iff (report : PreflightReport) :
    report.passed = true ↔ ∀ check ∈ report.checks, Met check := by
  simp only [PreflightReport.passed, PreflightReport.requiredChecks, List.all_eq_true,
    List.mem_filter, decide_eq_true_eq, and_imp]
  exact Iff.rfl

theorem met_iff_of_required {check : PreflightCheck} (required : check.level = .required) :
    Met check ↔ check.status = .pass := by
  rw [Met, required]
  exact forall_prop_of_true rfl

theorem met_of_advisory {check : PreflightCheck} (advisory : check.level = .advisory) :
    Met check := by
  intro required
  exact nomatch advisory.symm.trans required

@[simp] theorem met_flagCheck (name : String) (enabled : Bool) :
    Met (flagCheck name enabled) ↔ enabled = true := by
  rw [met_iff_of_required rfl]
  simp [flagCheck]

@[simp] theorem met_credentialCheck (label : String) (present : Bool) :
    Met (credentialCheck label present) ↔ present = true := by
  rw [met_iff_of_required rfl]
  simp [credentialCheck]

@[simp] theorem met_quantityCheck (maxQty : ℤ) :
    Met (quantityCheck maxQty) ↔ 0 < maxQty ∧ maxQty ≤ warnQuantityThreshold := by
  rw [met_iff_of_required rfl]
  unfold quantityCheck
  by_cases nonpositive : maxQty ≤ 0
  · simp [nonpositive]
  · by_cases large : warnQuantityThreshold < maxQty
    · simp [nonpositive, large]
    · simp [nonpositive, large, not_le.mp nonpositive, not_lt.mp large]

@[simp] theorem met_symbolsCheck (py : Python) (symbols : List String) :
    Met (symbolsCheck py symbols) ↔ symbols ≠ [] := by
  rw [met_iff_of_required rfl]
  simp [symbolsCheck]

@[simp] theorem met_orderTypesCheck (py : Python) (allowed : List String) :
    Met (orderTypesCheck py allowed) ↔ allowed ≠ [] := by
  cases allowed with
  | nil =>
      rw [met_iff_of_required rfl]
      simp [orderTypesCheck]
  | cons first rest =>
      have advisory : Met (orderTypesCheck py (first :: rest)) := met_of_advisory rfl
      exact iff_of_true advisory (List.cons_ne_nil first rest)

theorem met_checkFilesystem (files : FileSystem) (checker : LivePilotPreflightChecker) :
    ∀ check ∈ checker.checkFilesystem files, Met check := by
  intro check member
  apply met_of_advisory
  rcases List.mem_cons.mp member with audit | dashboard
  · rw [audit]
    rfl
  · obtain ⟨path, _, same⟩ := Option.map_eq_some_iff.mp (Option.mem_toList.mp dashboard)
    rw [← same]
    rfl

@[simp] theorem met_checkKillSwitch (py : Python) (checker : LivePilotPreflightChecker) :
    Met (checker.checkKillSwitch py) ↔
      ∀ killSwitch, checker.killSwitch = some killSwitch → killSwitch.active = false := by
  unfold checkKillSwitch
  cases checker.killSwitch with
  | none => exact iff_of_true (met_of_advisory rfl) nofun
  | some killSwitch =>
      rw [met_iff_of_required rfl]
      simp

@[simp] theorem met_checkStaticIp (checker : LivePilotPreflightChecker) :
    Met checker.checkStaticIp ↔ checker.requireStaticIp = false := by
  unfold checkStaticIp
  cases checker.requireStaticIp with
  | false => exact iff_of_true (met_of_advisory rfl) rfl
  | true =>
      rw [met_iff_of_required rfl]
      simp

theorem passed_run_iff (py : Python) (files : FileSystem) (checker : LivePilotPreflightChecker) :
    (checker.run py files).passed = true ↔ checker.Ready py := by
  rw [passed_iff]
  have product : Met (productCheck py checker.settings.liveAllowedProduct) := met_of_advisory rfl
  have exchange : Met (exchangeCheck py checker.settings.liveAllowedExchange) :=
    met_of_advisory rfl
  simp only [run, checkFlags, checkPilotConstraints, checkCredentials, List.forall_mem_append,
    List.forall_mem_cons, List.not_mem_nil, false_implies, implies_true, met_flagCheck,
    met_quantityCheck, met_symbolsCheck, met_orderTypesCheck, met_credentialCheck,
    met_checkKillSwitch, met_checkStaticIp, product, exchange, true_and, and_true]
  constructor
  · intro ⟨⟨⟨⟨⟨⟨live, execution, pilot⟩, ⟨positive, small⟩, symbols, orderTypes⟩,
      apiKey, apiSecret, accessToken⟩, _⟩, killSwitch⟩, staticIp⟩
    exact ⟨live, execution, pilot, positive, small, symbols, orderTypes, apiKey, apiSecret,
      accessToken, killSwitch, staticIp⟩
  · intro ready
    exact ⟨⟨⟨⟨⟨⟨ready.liveTradingEnabled, ready.executionEnabled, ready.pilotEnabled⟩,
      ⟨ready.quantity_pos, ready.quantity_small⟩, ready.symbols, ready.orderTypes⟩,
      ready.apiKey, ready.apiSecret, ready.accessToken⟩, checker.met_checkFilesystem files⟩,
      ready.killSwitchOff⟩, ready.staticIpAdvisory⟩

/-! ### The guard over the same settings -/

/-- The guard of the session, with the kill switch that the preflight looked at. -/
def guard (checker : LivePilotPreflightChecker) : LiveExecutionSafetyGuard :=
  { settings := some checker.settings.toSettings
    killSwitch := checker.killSwitch }

def config (checker : LivePilotPreflightChecker) : LivePilotConfig :=
  .fromSettings checker.settings

/-- The configured product and some configured order type are ones that an order can have. -/
def Tradable (py : Python) (checker : LivePilotPreflightChecker) : Prop :=
  (∃ product : ProductType,
    py.upper product.text = py.upper checker.settings.liveAllowedProduct) ∧
  ∃ orderType : Domain.OrderType,
    py.upper orderType.text ∈ checker.settings.liveAllowedOrderTypes.map py.upper

theorem killSwitchActive_guard (checker : LivePilotPreflightChecker) :
    checker.guard.killSwitchActive = false ↔
      ∀ killSwitch, checker.killSwitch = some killSwitch → killSwitch.active = false := by
  unfold guard LiveExecutionSafetyGuard.killSwitchActive
  cases checker.killSwitch with
  | none => exact iff_of_true rfl nofun
  | some killSwitch => simp

def oneShare (symbol exchange : String) (product : ProductType)
    (orderType : Domain.OrderType) :
    OrderIntent :=
  { strategyId := ""
    symbol := symbol
    exchange := exchange
    side := .buy
    quantity := 1
    orderType := orderType
    product := product
    validity := "DAY"
    price := some 1
    triggerPrice := some 1
    shape :=
      { quantity_pos := Int.one_pos
        limit_priced := fun _ => Option.some_ne_none 1
        stop_triggered := fun _ => Option.some_ne_none 1 } }

/-- What the settings must have for any order to get past the guard. -/
structure SettingsPassable (py : Python) (checker : LivePilotPreflightChecker) : Prop where
  liveTradingEnabled : checker.settings.liveTradingEnabled = true
  executionEnabled : checker.settings.liveOrderExecutionEnabled = true
  pilotEnabled : checker.settings.liveOrderPilotEnabled = true
  quantity_pos : 0 < checker.settings.liveMaxOrderQuantity
  symbols : checker.settings.liveAllowedSymbols ≠ []
  tradable : checker.Tradable py

theorem settingsPassable_of_guardOpen {py : Python} {checker : LivePilotPreflightChecker}
    {guard : LiveExecutionSafetyGuard} {intent : OrderIntent}
    (settings : guard.settings = some checker.settings.toSettings)
    (guardOpen : GuardOpen py guard intent checker.config) : checker.SettingsPassable py := by
  have whitelisted := guardOpen.whitelisted
  have live := guardOpen.liveTradingEnabled
  rw [LiveExecutionSafetyGuard.liveTradingEnabled, settings] at live
  refine
    { liveTradingEnabled := live
      executionEnabled := guardOpen.executionEnabled
      pilotEnabled := guardOpen.pilotEnabled
      quantity_pos := lt_of_lt_of_le intent.shape.quantity_pos whitelisted.quantity
      symbols := ?_
      tradable := ⟨⟨intent.product, whitelisted.product⟩,
        ⟨intent.orderType, whitelisted.orderType⟩⟩ }
  intro empty
  have listed : py.upper intent.symbol ∈ checker.settings.liveAllowedSymbols.map py.upper :=
    whitelisted.symbol
  rw [empty] at listed
  exact List.not_mem_nil listed

theorem SettingsPassable.exists_guardOpen {py : Python} {checker : LivePilotPreflightChecker}
    (passable : checker.SettingsPassable py)
    (killSwitchOff : checker.guard.killSwitchActive = false) :
    ∃ intent, GuardOpen py checker.guard intent checker.config := by
  obtain ⟨symbol, listed⟩ := List.exists_mem_of_ne_nil _ passable.symbols
  obtain ⟨⟨product, sameProduct⟩, ⟨orderType, listedType⟩⟩ := passable.tradable
  refine ⟨oneShare symbol checker.settings.liveAllowedExchange product orderType, ?_⟩
  exact
    { liveTradingEnabled := passable.liveTradingEnabled
      executionEnabled := passable.executionEnabled
      pilotEnabled := passable.pilotEnabled
      killSwitchOff := killSwitchOff
      whitelisted :=
        { symbol := List.mem_map_of_mem listed
          exchange := rfl
          product := sameProduct
          orderType := listedType
          quantity := passable.quantity_pos } }

theorem Ready.allowed_iff {py : Python} {checker : LivePilotPreflightChecker}
    (ready : checker.Ready py) (intent : OrderIntent) (approval : ApprovalDecision)
    (risk : Option RiskDecision) :
    assertPilotOrderAllowed py checker.guard intent checker.config approval risk = .ok () ↔
      WithinWhitelists py checker.config intent.symbol intent.exchange intent.product.text
        intent.orderType.text intent.quantity ∧
      (∀ decision, risk = some decision → decision.approved = true) ∧
      approval.status = .approved := by
  rw [assertPilotOrderAllowed_eq_ok_iff]
  constructor
  · intro allowed
    exact ⟨allowed.guardOpen.whitelisted, allowed.riskApproved, allowed.approved⟩
  · intro ⟨whitelisted, riskApproved, approved⟩
    exact
      { guardOpen :=
          { liveTradingEnabled := ready.liveTradingEnabled
            executionEnabled := ready.executionEnabled
            pilotEnabled := ready.pilotEnabled
            killSwitchOff := checker.killSwitchActive_guard.mpr ready.killSwitchOff
            whitelisted := whitelisted }
        riskApproved := riskApproved
        approved := approved }

theorem Ready.settingsPassable {py : Python} {checker : LivePilotPreflightChecker}
    (ready : checker.Ready py) (tradable : checker.Tradable py) : checker.SettingsPassable py :=
  { liveTradingEnabled := ready.liveTradingEnabled
    executionEnabled := ready.executionEnabled
    pilotEnabled := ready.pilotEnabled
    quantity_pos := ready.quantity_pos
    symbols := ready.symbols
    tradable := tradable }

end LivePilotPreflightChecker

end TradingEngine.LiveExecution
