/-
One run of the script that places a live order.

The script checks its flag, the settings, the order and the typed confirmation in this order,
builds the kill switch, the gate and the broker, and lets the executor run once.  An order goes
out exactly when all of that holds and the order is within the whitelists.
-/

import TradingEngine.General.TryExcept
import TradingEngine.LiveExecution.PilotSession

namespace TradingEngine.LiveExecution

open Domain Broker
open Signals (Side)

namespace PilotScript

/-- The parsed arguments; `argparse` restricts the side, the order type and the product. -/
structure Args where
  symbol : String
  side : Side
  quantity : ℤ
  orderType : Domain.OrderType
  price : Option String
  triggerPrice : Option String
  product : ProductType
  strategyId : String
  exchange : String
  confirmedFlag : Bool

/-- What the run finds around it.  `answer` is `none` where the input ends or is interrupted, and
`kiteConnect` is `none` where the package is not installed. -/
structure Surroundings where
  settings : PilotSettings
  globalKillSwitch : Bool
  answer : Option String
  kiteConnect : Option (String → String → KiteClient)
  clock : CallClock

/-- How a run ends: with an exit code and what is printed, with an exception that nothing
catches, or with the result of the executor. -/
inductive Ending where
  | refused (code : ℤ) (error : String) (hint : Option String)
  | raised (exception : EngineError)
  | finished (result : PilotOrderResult)
deriving DecidableEq

/-- The exit code of `main`; an exception leaves none. -/
def Ending.exitCode : Ending → Option ℤ
  | .refused code _ _ => some code
  | .raised _ => none
  | .finished result => some (if result.success then 0 else 1)

def require (holds : Bool) (code : ℤ) (error : String) (hint : Option String) :
    Except Ending Unit :=
  if holds then .ok () else .error (.refused code error hint)

/-! ### The order -/

instance decidableIntentShape (quantity : ℤ) (orderType : Domain.OrderType)
    (price triggerPrice : Option ℚ) :
    Decidable (IntentShape quantity orderType price triggerPrice) :=
  decidable_of_iff (0 < quantity ∧ (orderType = .limit → price ≠ none) ∧
      (orderType = .sl ∨ orderType = .slM → triggerPrice ≠ none))
    ⟨fun checks => ⟨checks.1, checks.2.1, checks.2.2⟩,
      fun shape => ⟨shape.quantity_pos, shape.limit_priced, shape.stop_triggered⟩⟩

/-- The text of the first check of `OrderIntent.__post_init__` that fails. -/
def shapeError (quantity : ℤ) (orderType : Domain.OrderType) (price : Option ℚ) : String :=
  if quantity ≤ 0 then "OrderIntent quantity must be positive, got " ++ toString quantity
  else if orderType = .limit ∧ price = none then "LIMIT order requires a price."
  else orderType.text ++ " order requires a trigger_price."

/-- `--price`, which has to be a positive number. -/
def parsePrice (py : Python) (price : Option String) : Except Ending (Option ℚ) :=
  match price with
  | none => .ok none
  | some text =>
      match py.decimal text with
      | none => .error (.refused 1 ("invalid price: " ++ py.repr text) none)
      | some value =>
          if value ≤ 0 then .error (.refused 1 ("invalid price: " ++ py.repr text) none)
          else .ok (some value)

/-- `--trigger-price`, which has to be a number. -/
def parseTriggerPrice (py : Python) (triggerPrice : Option String) :
    Except Ending (Option ℚ) :=
  match triggerPrice with
  | none => .ok none
  | some text =>
      match py.decimal text with
      | none => .error (.refused 1 ("invalid trigger_price: " ++ py.repr text) none)
      | some value => .ok (some value)

/-- `OrderIntent(...)`, which raises on a shape that it does not accept. -/
def newIntent (py : Python) (args : Args) (price triggerPrice : Option ℚ) :
    Except Ending OrderIntent :=
  if shape : IntentShape args.quantity args.orderType price triggerPrice then
    .ok
      { strategyId := args.strategyId
        symbol := py.upper args.symbol
        exchange := py.upper args.exchange
        side := args.side
        quantity := args.quantity
        orderType := args.orderType
        product := args.product
        validity := "DAY"
        price := price
        triggerPrice := triggerPrice
        shape := shape }
  else
    .error (.raised (.orderValidation (shapeError args.quantity args.orderType price)))

/-- `_build_intent`. -/
def buildIntent (py : Python) (args : Args) : Except Ending OrderIntent := do
  require (0 < args.quantity) 1 "quantity must be positive" none
  let price ← parsePrice py args.price
  require (¬ ((args.orderType = .limit ∨ args.orderType = .sl) ∧ price = none)) 1
    ("--price is required for " ++ args.orderType.text ++ " orders") none
  let triggerPrice ← parseTriggerPrice py args.triggerPrice
  newIntent py args price triggerPrice

/-! ### The run -/

def confirmationPhrase : String := "PLACE LIVE ORDER"

def requireFlag (name : String) (enabled : Bool) : Except Ending Unit :=
  require enabled 3 (name ++ " is not set to true.")
    (some ("Set " ++ name ++ "=true in your .env to proceed."))

/-- The confirmation that the operator types. -/
def confirm (py : Python) (answer : Option String) : Except Ending Unit :=
  match answer with
  | none => .error (.refused 4 "\nAborted." none)
  | some typed =>
      require (py.strip typed = confirmationPhrase) 4
        "Confirmation phrase did not match. Order not placed." none

/-- The kill switch of the session.  An armed global switch calls `activate` without the reason
that it needs. -/
def newKillSwitch (globalKillSwitch : Bool) : Except Ending KillSwitch :=
  if globalKillSwitch then .error (.raised (.raised .typeError))
  else .ok (.ofRisk .new)

def importKite (kiteConnect : Option (String → String → KiteClient)) :
    Except Ending (String → String → KiteClient) :=
  match kiteConnect with
  | none =>
      .error (.refused 5 "kiteconnect package not installed. Run: pip install kiteconnect" none)
  | some connect => .ok connect

/-- `get_secret_value()`, which a setting that was never given does not have. -/
def secretValue (secret : Option String) : Except Ending String :=
  match secret with
  | none => .error (.raised (.raised .attributeError))
  | some value => .ok value

/-- What the executor is built from. -/
structure Prepared where
  intent : OrderIntent
  killSwitch : KillSwitch
  kite : KiteClient

/-- `main` up to the executor. -/
def prepare (py : Python) (args : Args) (around : Surroundings) : Except Ending Prepared := do
  require args.confirmedFlag 2
    "Missing required safety flag: --i-understand-this-places-real-orders"
    (some "Add this flag to acknowledge that this script places real orders.")
  requireFlag "LIVE_TRADING_ENABLED" around.settings.liveTradingEnabled
  requireFlag "LIVE_ORDER_EXECUTION_ENABLED" around.settings.liveOrderExecutionEnabled
  requireFlag "LIVE_ORDER_PILOT_ENABLED" around.settings.liveOrderPilotEnabled
  let intent ← buildIntent py args
  confirm py around.answer
  let killSwitch ← newKillSwitch around.globalKillSwitch
  let connect ← importKite around.kiteConnect
  let apiKey ← secretValue around.settings.zerodhaApiKey
  let accessToken ← secretValue around.settings.zerodhaAccessToken
  return { intent := intent, killSwitch := killSwitch, kite := connect apiKey accessToken }

theorem sixty_pos : (0 : ℤ) < 60 := by decide

/-- The gate of the script, which records the operator's confirmation. -/
def approvalGate : ApprovalGate :=
  { mode := .autoPaper
    timeout := 60
    defaultDecidedBy := some "operator_cli"
    requests := OrderedDict.empty
    decisions := OrderedDict.empty
    timeout_pos := sixty_pos }

def executor (around : Surroundings) (killSwitch : KillSwitch) : LiveOrderPilotExecutor Unit :=
  { broker :=
      { settings := some around.settings.toSettings
        connected := true
        placed := [] }
    config := .fromSettings around.settings
    gate := approvalGate
    guard :=
      { settings := some around.settings.toSettings
        killSwitch := some killSwitch }
    auditLog := some []
    riskState := () }

/-- What a run leaves behind: its ending, the calls of Kite and the audit log. -/
structure Run where
  ending : Ending
  placed : List KiteParams
  auditLog : List AuditRecord

def main (py : Python) (args : Args) (around : Surroundings) : Run :=
  match prepare py args around with
  | .error ending =>
      { ending := ending
        placed := []
        auditLog := [] }
  | .ok prepared =>
      let called := (executor around prepared.killSwitch).execute py prepared.kite none
        around.clock prepared.intent none none
      { ending :=
          match called.1 with
          | .error exception => .raised exception
          | .ok result => .finished result
        placed := called.2.broker.placed
        auditLog := called.2.auditLog.getD [] }

/-! ### What the checks require -/

variable {py : Python} {args : Args} {around : Surroundings}

/-- Everything that a run checks before its executor, with the intent and the client that the
executor gets. -/
structure Cleared (py : Python) (args : Args) (around : Surroundings) (intent : OrderIntent)
    (kite : KiteClient) : Prop where
  confirmedFlag : args.confirmedFlag = true
  liveTradingEnabled : around.settings.liveTradingEnabled = true
  executionEnabled : around.settings.liveOrderExecutionEnabled = true
  pilotEnabled : around.settings.liveOrderPilotEnabled = true
  built : buildIntent py args = .ok intent
  typed : around.answer.map py.strip = some confirmationPhrase
  disarmed : around.globalKillSwitch = false
  client : ∃ connect apiKey accessToken, around.kiteConnect = some connect ∧
    around.settings.zerodhaApiKey = some apiKey ∧
    around.settings.zerodhaAccessToken = some accessToken ∧ kite = connect apiKey accessToken

theorem require_eq_ok_iff {holds : Bool} {code : ℤ} {error : String} {hint : Option String}
    {done : Unit} : require holds code error hint = .ok done ↔ holds = true := by
  cases holds with
  | false => exact iff_of_false nofun Bool.false_ne_true
  | true => exact iff_of_true rfl rfl

theorem confirm_eq_ok_iff {answer : Option String} {done : Unit} :
    confirm py answer = .ok done ↔ answer.map py.strip = some confirmationPhrase := by
  cases answer with
  | none => exact iff_of_false nofun nofun
  | some typed =>
      unfold confirm
      rw [require_eq_ok_iff]
      simp

theorem newKillSwitch_eq_ok_iff {armed : Bool} {killSwitch : KillSwitch} :
    newKillSwitch armed = .ok killSwitch ↔ armed = false ∧ killSwitch = .ofRisk .new := by
  cases armed with
  | false => simp [newKillSwitch, eq_comm]
  | true => simp [newKillSwitch]

theorem importKite_eq_ok_iff {kiteConnect : Option (String → String → KiteClient)}
    {connect : String → String → KiteClient} :
    importKite kiteConnect = .ok connect ↔ kiteConnect = some connect := by
  cases kiteConnect with
  | none => exact iff_of_false nofun nofun
  | some given => simp [importKite]

theorem secretValue_eq_ok_iff {secret : Option String} {value : String} :
    secretValue secret = .ok value ↔ secret = some value := by
  cases secret with
  | none => exact iff_of_false nofun nofun
  | some given => simp [secretValue]

theorem prepare_eq_ok_iff {prepared : Prepared} :
    prepare py args around = .ok prepared ↔
      Cleared py args around prepared.intent prepared.kite ∧
        prepared.killSwitch = .ofRisk .new := by
  unfold prepare requireFlag
  simp only [TryExcept.bind_eq_ok_iff, require_eq_ok_iff, confirm_eq_ok_iff,
    newKillSwitch_eq_ok_iff, importKite_eq_ok_iff, secretValue_eq_ok_iff]
  constructor
  · intro ⟨_, confirmed, _, live, _, execution, _, pilot, intent, built, _, typed, killSwitch,
      ⟨disarmed, off⟩, connect, installed, apiKey, keyed, accessToken, tokened, same⟩
    cases same
    exact ⟨⟨confirmed, live, execution, pilot, built, typed, disarmed, connect, apiKey,
      accessToken, installed, keyed, tokened, rfl⟩, off⟩
  · intro ⟨cleared, off⟩
    obtain ⟨connect, apiKey, accessToken, installed, keyed, tokened, same⟩ := cleared.client
    refine ⟨(), cleared.confirmedFlag, (), cleared.liveTradingEnabled, (),
      cleared.executionEnabled, (), cleared.pilotEnabled, prepared.intent, cleared.built, (),
      cleared.typed, prepared.killSwitch, ⟨cleared.disarmed, off⟩, connect, installed, apiKey,
      keyed, accessToken, tokened, ?_⟩
    rw [← same]
    rfl

/-! ### The call of the executor -/

/-- The decision that the gate of the script records. -/
def operatorDecision (clock : CallClock) : ApprovalDecision :=
  approvalGate.paperDecision clock.decidedAt clock.approvalId none

/-- The two records that a call writes before it asks the broker. -/
def auditRecords (clock : CallClock) (intent : OrderIntent) : List AuditRecord :=
  [.request (intentToRequest clock.requestedAt clock.approvalId intent none none 60 sixty_pos),
    .decision (operatorDecision clock)]

/-- The executor after its gate has decided, before the broker is asked. -/
def decided (around : Surroundings) (killSwitch : KillSwitch) (intent : OrderIntent) :
    LiveOrderPilotExecutor Unit :=
  { executor around killSwitch with
    gate := ((approvalGate.createRequest around.clock.requestedAt around.clock.approvalId intent
      none none).2.decide (operatorDecision around.clock))
    auditLog := some (auditRecords around.clock intent) }

def brokerAnswer (py : Python) (around : Surroundings) (prepared : Prepared) :
    Except EngineError String × ZerodhaBroker :=
  (executor around prepared.killSwitch).broker.placeOrder py prepared.kite prepared.intent
    (.fromSettings around.settings) (operatorDecision around.clock) none
    (some (executor around prepared.killSwitch).guard)

theorem execute_eq (py : Python) (around : Surroundings) (prepared : Prepared) :
    (executor around prepared.killSwitch).execute py prepared.kite none around.clock
        prepared.intent none none =
      match brokerAnswer py around prepared with
      | (.error exception, broker) =>
          (.ok
            { success := false
              brokerOrderId := none
              approvalStatus := some .approved
              error := some (errorText py exception) },
            { decided around prepared.killSwitch prepared.intent with broker := broker })
      | (.ok brokerOrderId, broker) =>
          (.ok
            { success := true
              brokerOrderId := some brokerOrderId
              approvalStatus := some .approved
              error := none },
            { decided around prepared.killSwitch prepared.intent with broker := broker }) := by
  have recorded : LiveOrderPilotExecutor.audited
      { executor around prepared.killSwitch with
        gate := (decided around prepared.killSwitch prepared.intent).gate }
      (operatorDecision around.clock) = some (auditRecords around.clock prepared.intent) := by
    change some (([] ++ (((OrderedDict.insert _ _ _).get? _).map AuditRecord.request).toList) ++
      [_]) = _
    have own : (operatorDecision around.clock).approvalId = around.clock.approvalId := rfl
    rw [OrderedDict.get?_insert, if_pos own]
    rfl
  unfold decided
  rw [← recorded]
  rfl

/-- The order is within the whitelists of the settings. -/
def Within (py : Python) (around : Surroundings) (intent : OrderIntent) : Prop :=
  WithinWhitelists py (.fromSettings around.settings) intent.symbol intent.exchange
    intent.product.text intent.orderType.text intent.quantity

theorem placementAllowed_iff {prepared : Prepared}
    (cleared : Cleared py args around prepared.intent prepared.kite)
    (off : prepared.killSwitch = .ofRisk .new) :
    ZerodhaBroker.PlacementAllowed py (executor around prepared.killSwitch).broker
        (executor around prepared.killSwitch).guard prepared.intent
        (.fromSettings around.settings) (operatorDecision around.clock) none ↔
      Within py around prepared.intent := by
  constructor
  · intro allowed
    exact allowed.allowed.guardOpen.whitelisted
  · intro within
    exact
      { connected := rfl
        allowed :=
          { guardOpen :=
              { liveTradingEnabled := cleared.liveTradingEnabled
                executionEnabled := cleared.executionEnabled
                pilotEnabled := cleared.pilotEnabled
                killSwitchOff := by
                  rw [off]
                  rfl
                whitelisted := within }
            riskApproved := nofun
            approved := rfl } }

theorem brokerAnswer_of_within {prepared : Prepared}
    (cleared : Cleared py args around prepared.intent prepared.kite)
    (off : prepared.killSwitch = .ofRisk .new) (within : Within py around prepared.intent) :
    (brokerAnswer py around prepared).2.placed = [kiteParams py prepared.intent] ∧
      (brokerAnswer py around prepared).1 =
        (prepared.kite [] (kiteParams py prepared.intent)).map KiteResponse.brokerOrderId := by
  have allowed := (placementAllowed_iff cleared off).mpr within
  constructor
  · unfold brokerAnswer
    rw [ZerodhaBroker.placeOrder_of_allowed allowed]
    rfl
  · unfold brokerAnswer ZerodhaBroker.placeOrder
    rw [if_pos allowed.connected, Option.getD_some,
      assertPilotOrderAllowed_eq_ok_iff.mpr allowed.allowed]
    have nothingSent : (executor around prepared.killSwitch).broker.placed = [] := rfl
    dsimp only
    rw [nothingSent]
    cases prepared.kite [] (kiteParams py prepared.intent) with
    | error exception => rfl
    | ok response => rfl

theorem brokerAnswer_of_not_within {prepared : Prepared}
    (cleared : Cleared py args around prepared.intent prepared.kite)
    (off : prepared.killSwitch = .ofRisk .new) (outside : ¬ Within py around prepared.intent) :
    (brokerAnswer py around prepared).2.placed = [] ∧
      ∃ exception, (brokerAnswer py around prepared).1 = .error exception := by
  have refused : ∃ exception, brokerAnswer py around prepared =
      (.error exception, (executor around prepared.killSwitch).broker) :=
    ZerodhaBroker.placeOrder_of_not_allowed
      (fun allowed => outside ((placementAllowed_iff cleared off).mp allowed))
  obtain ⟨exception, answer⟩ := refused
  rw [answer]
  exact ⟨rfl, exception, rfl⟩

/-! ### How a run is stopped -/

/-- An ending that does not look like success. -/
def Ending.Failed (ending : Ending) : Prop :=
  ending.exitCode ≠ some 0

theorem failed_refused {code : ℤ} {error : String} {hint : Option String} (nonzero : code ≠ 0) :
    (Ending.refused code error hint).Failed :=
  fun success => nonzero (Option.some.inj success)

theorem failed_require {holds : Bool} {code : ℤ} {error : String} {hint : Option String}
    (nonzero : code ≠ 0) (ending : Ending)
    (stopped : require holds code error hint = .error ending) : ending.Failed := by
  cases holds with
  | true => cases stopped
  | false =>
      cases stopped
      exact failed_refused nonzero

theorem failed_parsePrice {price : Option String} (ending : Ending)
    (stopped : parsePrice py price = .error ending) : ending.Failed := by
  unfold parsePrice at stopped
  split at stopped
  · cases stopped
  · split at stopped
    · cases stopped
      exact failed_refused one_ne_zero
    · split_ifs at stopped
      cases stopped
      exact failed_refused one_ne_zero

theorem failed_parseTriggerPrice {triggerPrice : Option String} (ending : Ending)
    (stopped : parseTriggerPrice py triggerPrice = .error ending) : ending.Failed := by
  unfold parseTriggerPrice at stopped
  split at stopped
  · cases stopped
  · split at stopped
    · cases stopped
      exact failed_refused one_ne_zero
    · cases stopped

theorem failed_newIntent {price triggerPrice : Option ℚ} (ending : Ending)
    (stopped : newIntent py args price triggerPrice = .error ending) : ending.Failed := by
  unfold newIntent at stopped
  split_ifs at stopped
  cases stopped
  exact nofun

theorem failed_buildIntent (ending : Ending) (stopped : buildIntent py args = .error ending) :
    ending.Failed := by
  refine TryExcept.bind_errors (failed_require one_ne_zero) (fun _ => ?_) ending stopped
  refine TryExcept.bind_errors failed_parsePrice (fun _ => ?_)
  refine TryExcept.bind_errors (failed_require one_ne_zero) (fun _ => ?_)
  exact TryExcept.bind_errors failed_parseTriggerPrice (fun _ => failed_newIntent)

theorem failed_confirm {answer : Option String} (ending : Ending)
    (stopped : confirm py answer = .error ending) : ending.Failed := by
  cases answer with
  | none =>
      cases stopped
      exact failed_refused four_ne_zero
  | some typed => exact failed_require four_ne_zero ending stopped

theorem failed_newKillSwitch {armed : Bool} (ending : Ending)
    (stopped : newKillSwitch armed = .error ending) : ending.Failed := by
  cases armed with
  | true =>
      cases stopped
      exact nofun
  | false => cases stopped

theorem failed_importKite {kiteConnect : Option (String → String → KiteClient)} (ending : Ending)
    (stopped : importKite kiteConnect = .error ending) : ending.Failed := by
  cases kiteConnect with
  | none =>
      cases stopped
      exact failed_refused (by decide)
  | some connect => cases stopped

theorem failed_secretValue {secret : Option String} (ending : Ending)
    (stopped : secretValue secret = .error ending) : ending.Failed := by
  cases secret with
  | none =>
      cases stopped
      exact nofun
  | some value => cases stopped

theorem failed_prepare (ending : Ending) (stopped : prepare py args around = .error ending) :
    ending.Failed := by
  have flag {name : String} {enabled : Bool} (ending : Ending)
      (stopped : requireFlag name enabled = .error ending) : ending.Failed :=
    failed_require (by decide) ending stopped
  refine TryExcept.bind_errors (failed_require two_ne_zero) (fun _ => ?_) ending stopped
  refine TryExcept.bind_errors flag (fun _ => ?_)
  refine TryExcept.bind_errors flag (fun _ => ?_)
  refine TryExcept.bind_errors flag (fun _ => ?_)
  refine TryExcept.bind_errors failed_buildIntent (fun _ => ?_)
  refine TryExcept.bind_errors failed_confirm (fun _ => ?_)
  refine TryExcept.bind_errors failed_newKillSwitch (fun _ => ?_)
  refine TryExcept.bind_errors failed_importKite (fun _ => ?_)
  refine TryExcept.bind_errors failed_secretValue (fun _ => ?_)
  exact TryExcept.bind_errors failed_secretValue (fun _ _ done => nomatch done)

/-! ### Whole runs -/

theorem main_of_prepared {prepared : Prepared} (ok : prepare py args around = .ok prepared) :
    (main py args around).placed = (brokerAnswer py around prepared).2.placed ∧
      (main py args around).auditLog = auditRecords around.clock prepared.intent ∧
      (main py args around).ending.exitCode =
        some (if (brokerAnswer py around prepared).1.isOk then 0 else 1) := by
  unfold main
  rw [ok]
  dsimp only
  rw [execute_eq]
  cases brokerAnswer py around prepared with
  | mk outcome broker =>
      cases outcome with
      | error exception => exact ⟨rfl, rfl, rfl⟩
      | ok brokerOrderId => exact ⟨rfl, rfl, rfl⟩

theorem main_of_stopped {ending : Ending} (stopped : prepare py args around = .error ending) :
    (main py args around).placed = [] ∧ (main py args around).auditLog = [] ∧
      (main py args around).ending = ending := by
  unfold main
  rw [stopped]
  exact ⟨rfl, rfl, rfl⟩

/-- What a cleared run builds its executor from. -/
def preparedFor (intent : OrderIntent) (kite : KiteClient) : Prepared :=
  { intent := intent
    killSwitch := .ofRisk .new
    kite := kite }

theorem prepare_of_cleared {intent : OrderIntent} {kite : KiteClient}
    (cleared : Cleared py args around intent kite) :
    prepare py args around = .ok (preparedFor intent kite) :=
  prepare_eq_ok_iff.mpr ⟨cleared, rfl⟩

theorem stopped_or_cleared (py : Python) (args : Args) (around : Surroundings) :
    ((main py args around).placed = [] ∧ (main py args around).auditLog = [] ∧
        (main py args around).ending.Failed) ∨
      ∃ intent kite, Cleared py args around intent kite := by
  cases outcome : prepare py args around with
  | error ending =>
      left
      obtain ⟨placed, auditLog, same⟩ := main_of_stopped outcome
      refine ⟨placed, auditLog, ?_⟩
      rw [same]
      exact failed_prepare ending outcome
  | ok prepared =>
      right
      exact ⟨prepared.intent, prepared.kite, (prepare_eq_ok_iff.mp outcome).1⟩

theorem main_of_within {intent : OrderIntent} {kite : KiteClient}
    (cleared : Cleared py args around intent kite) (within : Within py around intent) :
    (main py args around).placed = [kiteParams py intent] ∧
      (main py args around).ending.exitCode =
        some (if (kite [] (kiteParams py intent)).isOk then 0 else 1) := by
  obtain ⟨placed, _, exitCode⟩ := main_of_prepared (prepare_of_cleared cleared)
  have answered : (brokerAnswer py around (preparedFor intent kite)).2.placed =
        [kiteParams py intent] ∧
      (brokerAnswer py around (preparedFor intent kite)).1 =
        (kite [] (kiteParams py intent)).map KiteResponse.brokerOrderId :=
    brokerAnswer_of_within cleared rfl within
  constructor
  · rw [placed, answered.1]
  · rw [exitCode, answered.2]
    cases kite [] (kiteParams py intent) with
    | error exception => rfl
    | ok response => rfl

theorem main_of_outside {intent : OrderIntent} {kite : KiteClient}
    (cleared : Cleared py args around intent kite) (outside : ¬ Within py around intent) :
    (main py args around).placed = [] ∧ (main py args around).ending.exitCode = some 1 := by
  obtain ⟨placed, _, exitCode⟩ := main_of_prepared (prepare_of_cleared cleared)
  have refused : (brokerAnswer py around (preparedFor intent kite)).2.placed = [] ∧
      ∃ exception, (brokerAnswer py around (preparedFor intent kite)).1 = .error exception :=
    brokerAnswer_of_not_within cleared rfl outside
  obtain ⟨unsent, exception, answer⟩ := refused
  constructor
  · rw [placed, unsent]
  · rw [exitCode, answer]
    rfl

theorem unsent_or_sent (py : Python) (args : Args) (around : Surroundings) :
    ((main py args around).placed = [] ∧ (main py args around).ending.Failed) ∨
      ∃ intent kite, Cleared py args around intent kite ∧ Within py around intent := by
  rcases stopped_or_cleared py args around with ⟨placed, _, failed⟩ | ⟨intent, kite, cleared⟩
  · exact .inl ⟨placed, failed⟩
  · by_cases within : Within py around intent
    · exact .inr ⟨intent, kite, cleared, within⟩
    · obtain ⟨placed, exitCode⟩ := main_of_outside cleared within
      refine .inl ⟨placed, ?_⟩
      unfold Ending.Failed
      rw [exitCode]
      exact nofun

/-- What a preflight over the settings of the run has not looked at. -/
structure LeftToCheck (py : Python) (args : Args) (around : Surroundings) : Prop where
  confirmedFlag : args.confirmedFlag = true
  typed : around.answer.map py.strip = some confirmationPhrase
  disarmed : around.globalKillSwitch = false
  installed : around.kiteConnect ≠ none
  built : ∃ intent, buildIntent py args = .ok intent ∧ Within py around intent

theorem exists_of_isSet {secret : Option String}
    (given : LivePilotPreflightChecker.isSet py secret = true) : ∃ value, secret = some value := by
  cases secret with
  | none => cases given
  | some value => exact ⟨value, rfl⟩

theorem LeftToCheck.cleared {checker : LivePilotPreflightChecker}
    (left : LeftToCheck py args around) (ready : checker.Ready py)
    (same : checker.settings = around.settings) :
    ∃ intent kite, Cleared py args around intent kite ∧ Within py around intent := by
  obtain ⟨intent, built, within⟩ := left.built
  obtain ⟨connect, installed⟩ := Option.ne_none_iff_exists'.mp left.installed
  obtain ⟨apiKey, keyed⟩ := exists_of_isSet ready.apiKey
  obtain ⟨accessToken, tokened⟩ := exists_of_isSet ready.accessToken
  rw [same] at keyed tokened
  refine ⟨intent, connect apiKey accessToken, ?_, within⟩
  exact
    { confirmedFlag := left.confirmedFlag
      liveTradingEnabled := same ▸ ready.liveTradingEnabled
      executionEnabled := same ▸ ready.executionEnabled
      pilotEnabled := same ▸ ready.pilotEnabled
      built := built
      typed := left.typed
      disarmed := left.disarmed
      client := ⟨connect, apiKey, accessToken, installed, keyed, tokened, rfl⟩ }

/-- What one run of the script does, for any arguments and surroundings. -/
structure RunLaw (py : Python) (args : Args) (around : Surroundings) : Prop where
  placed_iff : ∀ params, params ∈ (main py args around).placed ↔
    ∃ intent kite, Cleared py args around intent kite ∧ Within py around intent ∧
      params = kiteParams py intent
  at_most_one : (main py args around).placed.length ≤ 1
  audited : ∀ intent kite, Cleared py args around intent kite →
    (main py args around).auditLog = auditRecords around.clock intent
  unaudited : (∀ intent kite, ¬ Cleared py args around intent kite) →
    (main py args around).auditLog = []
  success_iff : (main py args around).ending.exitCode = some 0 ↔
    ∃ intent kite response, Cleared py args around intent kite ∧ Within py around intent ∧
      kite [] (kiteParams py intent) = .ok response
  failed_but_placed_iff :
    (main py args around).ending.Failed ∧ (main py args around).placed ≠ [] ↔
      ∃ intent kite exception, Cleared py args around intent kite ∧ Within py around intent ∧
        kite [] (kiteParams py intent) = .error exception
  afterPreflight : ∀ (checker : LivePilotPreflightChecker) (files : FileSystem),
    checker.settings = around.settings → (checker.run py files).passed = true →
      ((main py args around).placed ≠ [] ↔ LeftToCheck py args around)

theorem mem_placed_iff (params : KiteParams) :
    params ∈ (main py args around).placed ↔
      ∃ intent kite, Cleared py args around intent kite ∧ Within py around intent ∧
        params = kiteParams py intent := by
  constructor
  · intro member
    rcases unsent_or_sent py args around with ⟨unsent, _⟩ | ⟨intent, kite, cleared, within⟩
    · rw [unsent] at member
      exact nomatch member
    · rw [(main_of_within cleared within).1] at member
      exact ⟨intent, kite, cleared, within, List.mem_singleton.mp member⟩
  · intro ⟨intent, kite, cleared, within, same⟩
    rw [(main_of_within cleared within).1, same]
    exact List.mem_singleton_self _

theorem placed_length_le_one : (main py args around).placed.length ≤ 1 := by
  rcases unsent_or_sent py args around with ⟨unsent, _⟩ | ⟨intent, kite, cleared, within⟩
  · rw [unsent]
    exact Nat.zero_le 1
  · rw [(main_of_within cleared within).1]
    exact le_refl 1

theorem auditLog_of_cleared {intent : OrderIntent} {kite : KiteClient}
    (cleared : Cleared py args around intent kite) :
    (main py args around).auditLog = auditRecords around.clock intent :=
  (main_of_prepared (prepare_of_cleared cleared)).2.1

theorem auditLog_of_not_cleared
    (stopped : ∀ intent kite, ¬ Cleared py args around intent kite) :
    (main py args around).auditLog = [] := by
  rcases stopped_or_cleared py args around with ⟨_, auditLog, _⟩ | ⟨intent, kite, cleared⟩
  · exact auditLog
  · exact absurd cleared (stopped intent kite)

theorem exitCode_eq_zero_iff :
    (main py args around).ending.exitCode = some 0 ↔
      ∃ intent kite response, Cleared py args around intent kite ∧ Within py around intent ∧
        kite [] (kiteParams py intent) = .ok response := by
  constructor
  · intro success
    rcases unsent_or_sent py args around with ⟨_, failed⟩ | ⟨intent, kite, cleared, within⟩
    · exact absurd success failed
    · have exitCode := (main_of_within cleared within).2
      cases answer : kite [] (kiteParams py intent) with
      | error exception =>
          rw [success, answer] at exitCode
          exact nomatch exitCode
      | ok response => exact ⟨intent, kite, response, cleared, within, answer⟩
  · intro ⟨intent, kite, response, cleared, within, answer⟩
    rw [(main_of_within cleared within).2, answer]
    rfl

theorem failed_and_placed_iff :
    (main py args around).ending.Failed ∧ (main py args around).placed ≠ [] ↔
      ∃ intent kite exception, Cleared py args around intent kite ∧ Within py around intent ∧
        kite [] (kiteParams py intent) = .error exception := by
  constructor
  · intro ⟨failed, sent⟩
    obtain ⟨params, member⟩ := List.exists_mem_of_ne_nil _ sent
    obtain ⟨intent, kite, cleared, within, _⟩ := (mem_placed_iff params).mp member
    cases answer : kite [] (kiteParams py intent) with
    | error exception => exact ⟨intent, kite, exception, cleared, within, answer⟩
    | ok response =>
        exact absurd
          (exitCode_eq_zero_iff.mpr ⟨intent, kite, response, cleared, within, answer⟩) failed
  · intro ⟨intent, kite, exception, cleared, within, answer⟩
    constructor
    · unfold Ending.Failed
      rw [(main_of_within cleared within).2, answer]
      exact nofun
    · rw [(main_of_within cleared within).1]
      exact List.cons_ne_nil _ []

theorem placed_iff_of_ready {checker : LivePilotPreflightChecker} (ready : checker.Ready py)
    (same : checker.settings = around.settings) :
    (main py args around).placed ≠ [] ↔ LeftToCheck py args around := by
  constructor
  · intro sent
    obtain ⟨params, member⟩ := List.exists_mem_of_ne_nil _ sent
    obtain ⟨intent, kite, cleared, within, _⟩ := (mem_placed_iff params).mp member
    obtain ⟨connect, _, _, installed, _⟩ := cleared.client
    exact
      { confirmedFlag := cleared.confirmedFlag
        typed := cleared.typed
        disarmed := cleared.disarmed
        installed := Option.ne_none_iff_exists'.mpr ⟨connect, installed⟩
        built := ⟨intent, cleared.built, within⟩ }
  · intro left
    obtain ⟨intent, kite, cleared, within⟩ := left.cleared ready same
    exact List.ne_nil_of_mem ((mem_placed_iff _).mpr ⟨intent, kite, cleared, within, rfl⟩)

end PilotScript

end TradingEngine.LiveExecution
