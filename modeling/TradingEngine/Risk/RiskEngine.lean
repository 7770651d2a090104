/-
`RiskEngine`: the checks that every order intent passes.

The checks run in a fixed order and the first one that fails gives the decision.
Only an approval is counted, for the day and for the last second.  Each call is
handed the identifier that its decision gets.
-/

import Mathlib.Data.Finset.Basic
import Mathlib.Tactic.Linarith
import Mathlib.Tactic.NormNum
import TradingEngine.Domain.Models
import TradingEngine.General.WindowLimiter

namespace TradingEngine.Risk

open Domain
open Signals (Side)

/-- `RiskLimits` with what `__post_init__` checks. -/
structure RiskLimits where
  maxDailyLoss : ℚ := 10000
  maxOrderValue : ℚ := 500000
  maxOpenPositions : ℕ := 10
  maxTradesPerDay : ℕ := 100
  maxOrdersPerSecond : ℕ := 5
  allowedSymbols : Option (Finset String) := none
  allowedProductTypes : Option (Finset ProductType) := none
  allowedOrderTypes : Option (Finset Domain.OrderType) := none
  maxDailyLoss_pos : 0 < maxDailyLoss := by norm_num
  maxOrderValue_pos : 0 < maxOrderValue := by norm_num
  maxOpenPositions_pos : 0 < maxOpenPositions := by norm_num
  maxTradesPerDay_pos : 0 < maxTradesPerDay := by norm_num
  maxOrdersPerSecond_pos : 0 < maxOrdersPerSecond := by norm_num

/-- The limits without an argument. -/
def RiskLimits.standard : RiskLimits := {}

structure KillSwitch where
  active : Bool
  reason : Option String
deriving DecidableEq

namespace KillSwitch

def new : KillSwitch :=
  { active := false
    reason := none }

/-- A blank reason raises and leaves the switch alone. -/
def activate (py : Python) (reason : String) (killSwitch : KillSwitch) :
    Except EngineError Unit × KillSwitch :=
  if py.isBlank reason then
    (.error (.valueError "Kill switch activation reason cannot be empty."), killSwitch)
  else (.ok (), { active := true, reason := some reason })

def deactivate (_killSwitch : KillSwitch) : KillSwitch :=
  new

end KillSwitch

/-- The kill switch and the intraday state. -/
structure RiskState where
  killSwitch : KillSwitch
  tradesToday : ℕ
  orderTimestamps : List Datetime
deriving DecidableEq

def RiskState.new (killSwitch : KillSwitch) : RiskState :=
  { killSwitch := killSwitch
    tradesToday := 0
    orderTimestamps := [] }

def RiskState.resetDailyState (state : RiskState) : RiskState :=
  { state with
    tradesToday := 0
    orderTimestamps := [] }

/-- One second, in microseconds. -/
def second : ℤ := 1000000

/-- The limits, with the text functions of the messages. -/
structure RiskEngine where
  limits : RiskLimits
  py : Python
  /-- `str` of a `Decimal`. -/
  decimalText : ℚ → String

def RiskEngine.ascii (limits : RiskLimits) : RiskEngine :=
  { limits := limits
    py := Python.ascii
    decimalText := fun _ => "" }

def approve (riskDecisionId : String) (ts : Datetime) : RiskDecision :=
  { riskDecisionId := riskDecisionId
    approved := true
    reasonCode := .approved
    reasonMessage := "All risk checks passed."
    checkedLimits := []
    timestamp := ts
    consistent := approved_consistent }

def reject (riskDecisionId : String) (reasonCode : RiskReasonCode)
    (refusal : reasonCode ≠ .approved) (reasonMessage : String)
    (checked : List (String × String)) (ts : Datetime) : RiskDecision :=
  { riskDecisionId := riskDecisionId
    approved := false
    reasonCode := reasonCode
    reasonMessage := reasonMessage
    checkedLimits := checked
    timestamp := ts
    consistent := fun _rejected => refusal }

namespace RiskEngine

variable (engine : RiskEngine) (riskDecisionId : String) (intent : OrderIntent)
  (snapshot : PortfolioSnapshot) (ts : Datetime) (state : RiskState)

/-! ### The checks -/

def checkKillSwitch : Option RiskDecision :=
  if state.killSwitch.active then
    some (reject riskDecisionId .killSwitchActive (by decide)
      ("Kill switch active: " ++ state.killSwitch.reason.getD "None") [] ts)
  else none

def checkSymbol : Option RiskDecision :=
  match engine.limits.allowedSymbols with
  | none => none
  | some allowed =>
      if intent.symbol ∈ allowed then none
      else
        some (reject riskDecisionId .symbolNotAllowed (by decide)
          ("Symbol " ++ engine.py.repr intent.symbol ++ " is not in the allowed list.") [] ts)

def checkProduct : Option RiskDecision :=
  match engine.limits.allowedProductTypes with
  | none => none
  | some allowed =>
      if intent.product ∈ allowed then none
      else
        some (reject riskDecisionId .productNotAllowed (by decide)
          ("Product type " ++ engine.py.repr intent.product.text ++ " is not allowed.") [] ts)

/-- An intent has one of the four order types, so the lookup does not fail. -/
def checkOrderType : Option RiskDecision :=
  match engine.limits.allowedOrderTypes with
  | none => none
  | some allowed =>
      if intent.orderType ∈ allowed then none
      else
        some (reject riskDecisionId .orderTypeNotAllowed (by decide)
          ("Order type " ++ engine.py.repr intent.orderType.text ++ " is not allowed.") [] ts)

def positionPrice (symbol : String) (pos : Domain.Position) : Option ℚ :=
  if pos.symbol = symbol then
    match pos.lastPrice with
    | some price => some price
    | none => if 0 < pos.averagePrice then some pos.averagePrice else none
  else none

/-- `_estimate_price`. -/
def estimatePrice : Option ℚ :=
  match intent.price, intent.triggerPrice with
  | some price, _ => some price
  | none, some triggerPrice => some triggerPrice
  | none, none => snapshot.positions.findSome? (positionPrice intent.symbol)

def checkOrderValue : Option RiskDecision :=
  match estimatePrice intent snapshot with
  | none =>
      some (reject riskDecisionId .invalidOrder (by decide)
        ("Cannot determine order value for " ++ intent.symbol ++ ": no price available.") [] ts)
  | some price =>
      let orderValue := intent.quantity * price
      if engine.limits.maxOrderValue < orderValue then
        some (reject riskDecisionId .orderValueLimitBreached (by decide)
          ("Order value " ++ engine.decimalText orderValue ++ " exceeds max " ++
            engine.decimalText engine.limits.maxOrderValue ++ ".")
          [("order_value", engine.decimalText orderValue),
            ("limit", engine.decimalText engine.limits.maxOrderValue)] ts)
      else none

def openPositions : ℕ :=
  (snapshot.positions.filter (fun pos => 0 < pos.quantity)).length

def alreadyHeld : Bool :=
  snapshot.positions.any (fun pos => pos.symbol = intent.symbol && 0 < pos.quantity)

def checkPositionCount : Option RiskDecision :=
  match intent.side with
  | .sell => none
  | .buy =>
      if ¬ alreadyHeld intent snapshot ∧
          engine.limits.maxOpenPositions ≤ openPositions snapshot then
        some (reject riskDecisionId .positionLimitBreached (by decide)
          ("Open positions (" ++ toString (openPositions snapshot) ++
            ") at or above limit (" ++ toString engine.limits.maxOpenPositions ++ ").")
          [("open_positions", toString (openPositions snapshot)),
            ("limit", toString engine.limits.maxOpenPositions)] ts)
      else none

def totalPnl : ℚ :=
  snapshot.realizedPnl + snapshot.unrealizedPnl

def checkDailyLoss : Option RiskDecision :=
  if totalPnl snapshot < 0 ∧ engine.limits.maxDailyLoss < |totalPnl snapshot| then
    some (reject riskDecisionId .dailyLossLimitBreached (by decide)
      ("Daily loss " ++ engine.decimalText (totalPnl snapshot) ++ " exceeds limit -" ++
        engine.decimalText engine.limits.maxDailyLoss ++ ".")
      [("daily_pnl", engine.decimalText (totalPnl snapshot)),
        ("limit", engine.decimalText (-engine.limits.maxDailyLoss))] ts)
  else none

def checkTradesPerDay : Option RiskDecision :=
  if engine.limits.maxTradesPerDay ≤ state.tradesToday then
    some (reject riskDecisionId .rateLimitBreached (by decide)
      ("Trades today (" ++ toString state.tradesToday ++ ") at or above daily limit (" ++
        toString engine.limits.maxTradesPerDay ++ ").")
      [("trades_today", toString state.tradesToday),
        ("limit", toString engine.limits.maxTradesPerDay)] ts)
  else none

/-- Run on the timestamps that are left after pruning. -/
def checkOrdersPerSecond (orderTimestamps : List Datetime) : Option RiskDecision :=
  if engine.limits.maxOrdersPerSecond ≤ orderTimestamps.length then
    some (reject riskDecisionId .rateLimitBreached (by decide)
      ("Orders per second (" ++ toString orderTimestamps.length ++ ") at or above limit (" ++
        toString engine.limits.maxOrdersPerSecond ++ ").")
      [("orders_this_second", toString orderTimestamps.length),
        ("limit", toString engine.limits.maxOrdersPerSecond)] ts)
  else none

/-! ### The decision -/

/-- The checks before that of the daily loss. -/
def beforeDailyLoss : Option RiskDecision :=
  checkKillSwitch riskDecisionId ts state <|>
    engine.checkSymbol riskDecisionId intent ts <|>
    engine.checkProduct riskDecisionId intent ts <|>
    engine.checkOrderType riskDecisionId intent ts <|>
    engine.checkOrderValue riskDecisionId intent snapshot ts <|>
    engine.checkPositionCount riskDecisionId intent snapshot ts

/-- The checks before that of the trades per day. -/
def beforeTradesPerDay : Option RiskDecision :=
  engine.beforeDailyLoss riskDecisionId intent snapshot ts state <|>
    engine.checkDailyLoss riskDecisionId snapshot ts

def checkOrderIntent : RiskDecision × RiskState :=
  match engine.beforeTradesPerDay riskDecisionId intent snapshot ts state <|>
      engine.checkTradesPerDay riskDecisionId ts state with
  | some decision => (decision, state)
  | none =>
      let orderTimestamps := WindowLimiter.prune second ts state.orderTimestamps
      match engine.checkOrdersPerSecond riskDecisionId ts orderTimestamps with
      | some decision => (decision, { state with orderTimestamps := orderTimestamps })
      | none =>
          (approve riskDecisionId ts,
            { state with
              orderTimestamps := orderTimestamps ++ [ts]
              tradesToday := state.tradesToday + 1 })

/-! ### What a decision says -/

end RiskEngine

/-- The answer is no decision, or a rejection with one of these reason codes and the names
of the limits that it reports. -/
def Refuses (reasons : List (RiskReasonCode × List String)) (answer : Option RiskDecision) :
    Prop :=
  ∀ decision, answer = some decision → decision.approved = false ∧
    (decision.reasonCode, decision.checkedLimits.map Prod.fst) ∈ reasons

theorem refuses_none (reasons : List (RiskReasonCode × List String)) : Refuses reasons none :=
  nofun

theorem refuses_reject {reasonCode : RiskReasonCode} (refusal : reasonCode ≠ .approved)
    (riskDecisionId reasonMessage : String) (checked : List (String × String)) (ts : Datetime)
    {reasons : List (RiskReasonCode × List String)}
    (listed : (reasonCode, checked.map Prod.fst) ∈ reasons) :
    Refuses reasons
      (some (reject riskDecisionId reasonCode refusal reasonMessage checked ts)) := by
  rintro decision ⟨⟩
  exact ⟨rfl, listed⟩

theorem Refuses.orElse {reasons others : List (RiskReasonCode × List String)}
    {first second : Option RiskDecision} (left : Refuses reasons first)
    (right : Refuses others second) : Refuses (reasons ++ others) (first <|> second) := by
  intro decision answered
  cases first with
  | none =>
      obtain ⟨rejected, listed⟩ := right decision answered
      exact ⟨rejected, List.mem_append_right _ listed⟩
  | some earlier =>
      obtain ⟨rejected, listed⟩ := left decision answered
      exact ⟨rejected, List.mem_append_left _ listed⟩

namespace RiskEngine

variable (engine : RiskEngine) (riskDecisionId : String) (intent : OrderIntent)
  (snapshot : PortfolioSnapshot) (ts : Datetime) (state : RiskState)

theorem refuses_checkKillSwitch :
    Refuses [(.killSwitchActive, [])] (checkKillSwitch riskDecisionId ts state) := by
  unfold checkKillSwitch
  split
  · exact refuses_reject _ _ _ _ _ List.mem_cons_self
  · exact refuses_none _

theorem refuses_checkSymbol :
    Refuses [(.symbolNotAllowed, [])] (engine.checkSymbol riskDecisionId intent ts) := by
  unfold checkSymbol
  split
  · exact refuses_none _
  · split
    · exact refuses_none _
    · exact refuses_reject _ _ _ _ _ List.mem_cons_self

theorem refuses_checkProduct :
    Refuses [(.productNotAllowed, [])] (engine.checkProduct riskDecisionId intent ts) := by
  unfold checkProduct
  split
  · exact refuses_none _
  · split
    · exact refuses_none _
    · exact refuses_reject _ _ _ _ _ List.mem_cons_self

theorem refuses_checkOrderType :
    Refuses [(.orderTypeNotAllowed, [])] (engine.checkOrderType riskDecisionId intent ts) := by
  unfold checkOrderType
  split
  · exact refuses_none _
  · split
    · exact refuses_none _
    · exact refuses_reject _ _ _ _ _ List.mem_cons_self

theorem refuses_checkOrderValue :
    Refuses [(.invalidOrder, []), (.orderValueLimitBreached, ["order_value", "limit"])]
      (engine.checkOrderValue riskDecisionId intent snapshot ts) := by
  unfold checkOrderValue
  split
  · exact refuses_reject _ _ _ _ _ List.mem_cons_self
  · dsimp only
    split
    · exact refuses_reject _ _ _ _ _ (List.mem_cons_of_mem _ List.mem_cons_self)
    · exact refuses_none _

theorem refuses_checkPositionCount :
    Refuses [(.positionLimitBreached, ["open_positions", "limit"])]
      (engine.checkPositionCount riskDecisionId intent snapshot ts) := by
  unfold checkPositionCount
  split
  · exact refuses_none _
  · split
    · exact refuses_reject _ _ _ _ _ List.mem_cons_self
    · exact refuses_none _

theorem refuses_checkDailyLoss :
    Refuses [(.dailyLossLimitBreached, ["daily_pnl", "limit"])]
      (engine.checkDailyLoss riskDecisionId snapshot ts) := by
  unfold checkDailyLoss
  split
  · exact refuses_reject _ _ _ _ _ List.mem_cons_self
  · exact refuses_none _

theorem refuses_checkTradesPerDay :
    Refuses [(.rateLimitBreached, ["trades_today", "limit"])]
      (engine.checkTradesPerDay riskDecisionId ts state) := by
  unfold checkTradesPerDay
  split
  · exact refuses_reject _ _ _ _ _ List.mem_cons_self
  · exact refuses_none _

theorem refuses_checkOrdersPerSecond (orderTimestamps : List Datetime) :
    Refuses [(.rateLimitBreached, ["orders_this_second", "limit"])]
      (engine.checkOrdersPerSecond riskDecisionId ts orderTimestamps) := by
  unfold checkOrdersPerSecond
  split
  · exact refuses_reject _ _ _ _ _ List.mem_cons_self
  · exact refuses_none _

def reasonsBeforeDailyLoss : List (RiskReasonCode × List String) :=
  [(.killSwitchActive, []), (.symbolNotAllowed, []), (.productNotAllowed, []),
    (.orderTypeNotAllowed, []), (.invalidOrder, []),
    (.orderValueLimitBreached, ["order_value", "limit"]),
    (.positionLimitBreached, ["open_positions", "limit"])]

theorem refuses_beforeDailyLoss :
    Refuses reasonsBeforeDailyLoss
      (engine.beforeDailyLoss riskDecisionId intent snapshot ts state) :=
  (refuses_checkKillSwitch riskDecisionId ts state).orElse
    ((engine.refuses_checkSymbol riskDecisionId intent ts).orElse
      ((engine.refuses_checkProduct riskDecisionId intent ts).orElse
        ((engine.refuses_checkOrderType riskDecisionId intent ts).orElse
          ((engine.refuses_checkOrderValue riskDecisionId intent snapshot ts).orElse
            (engine.refuses_checkPositionCount riskDecisionId intent snapshot ts)))))

theorem refuses_beforeTradesPerDay :
    Refuses (reasonsBeforeDailyLoss ++ [(.dailyLossLimitBreached, ["daily_pnl", "limit"])])
      (engine.beforeTradesPerDay riskDecisionId intent snapshot ts state) :=
  (engine.refuses_beforeDailyLoss riskDecisionId intent snapshot ts state).orElse
    (engine.refuses_checkDailyLoss riskDecisionId snapshot ts)

/-- A check of an intent answers in one of four places. -/
inductive Outcome : RiskDecision × RiskState → Prop
  | refused {decision : RiskDecision}
      (refusal : engine.beforeTradesPerDay riskDecisionId intent snapshot ts state =
        some decision) :
      Outcome (decision, state)
  | tradesExhausted {decision : RiskDecision}
      (passed : engine.beforeTradesPerDay riskDecisionId intent snapshot ts state = none)
      (exhausted : engine.limits.maxTradesPerDay ≤ state.tradesToday)
      (refusal : engine.checkTradesPerDay riskDecisionId ts state = some decision) :
      Outcome (decision, state)
  | tooFast {decision : RiskDecision}
      (passed : engine.beforeTradesPerDay riskDecisionId intent snapshot ts state = none)
      (inBudget : state.tradesToday < engine.limits.maxTradesPerDay)
      (full : engine.limits.maxOrdersPerSecond ≤
        (WindowLimiter.prune second ts state.orderTimestamps).length)
      (refusal : engine.checkOrdersPerSecond riskDecisionId ts
        (WindowLimiter.prune second ts state.orderTimestamps) = some decision) :
      Outcome (decision,
        { state with orderTimestamps := WindowLimiter.prune second ts state.orderTimestamps })
  | approved
      (passed : engine.beforeTradesPerDay riskDecisionId intent snapshot ts state = none)
      (inBudget : state.tradesToday < engine.limits.maxTradesPerDay)
      (room : (WindowLimiter.prune second ts state.orderTimestamps).length <
        engine.limits.maxOrdersPerSecond) :
      Outcome (approve riskDecisionId ts,
        { state with
          orderTimestamps := WindowLimiter.prune second ts state.orderTimestamps ++ [ts]
          tradesToday := state.tradesToday + 1 })

theorem checkOrderIntent_outcome :
    Outcome engine riskDecisionId intent snapshot ts state
      (engine.checkOrderIntent riskDecisionId intent snapshot ts state) := by
  unfold checkOrderIntent
  cases earlier : engine.beforeTradesPerDay riskDecisionId intent snapshot ts state with
  | some decision => exact Outcome.refused earlier
  | none =>
      cases trades : engine.checkTradesPerDay riskDecisionId ts state with
      | some decision =>
          have exhausted : engine.limits.maxTradesPerDay ≤ state.tradesToday := by
            by_contra inBudget
            rw [checkTradesPerDay, if_neg inBudget] at trades
            cases trades
          exact Outcome.tradesExhausted earlier exhausted trades
      | none =>
          have inBudget : state.tradesToday < engine.limits.maxTradesPerDay := by
            by_contra exhausted
            rw [checkTradesPerDay, if_pos (not_lt.mp exhausted)] at trades
            cases trades
          cases rate : engine.checkOrdersPerSecond riskDecisionId ts
              (WindowLimiter.prune second ts state.orderTimestamps) with
          | some decision =>
              have full : engine.limits.maxOrdersPerSecond ≤
                  (WindowLimiter.prune second ts state.orderTimestamps).length := by
                by_contra room
                rw [checkOrdersPerSecond, if_neg room] at rate
                cases rate
              simp only [Option.orElse_eq_orElse, Option.orElse_eq_or, Option.none_or, rate]
              exact Outcome.tooFast earlier inBudget full rate
          | none =>
              have room : (WindowLimiter.prune second ts state.orderTimestamps).length <
                  engine.limits.maxOrdersPerSecond := by
                by_contra full
                rw [checkOrdersPerSecond, if_pos (not_lt.mp full)] at rate
                cases rate
              simp only [Option.orElse_eq_orElse, Option.orElse_eq_or, Option.none_or, rate]
              exact Outcome.approved earlier inBudget room

/-! ### What an approval says -/

variable {engine riskDecisionId intent snapshot ts state}

theorem passed_of_approved
    (approved : (engine.checkOrderIntent riskDecisionId intent snapshot ts state).1.approved =
      true) :
    engine.beforeTradesPerDay riskDecisionId intent snapshot ts state = none := by
  revert approved
  generalize answer_eq : engine.checkOrderIntent riskDecisionId intent snapshot ts state = answer
  have outcome := engine.checkOrderIntent_outcome riskDecisionId intent snapshot ts state
  rw [answer_eq] at outcome
  cases outcome with
  | refused refusal =>
      intro approved
      rw [(engine.refuses_beforeTradesPerDay riskDecisionId intent snapshot ts state _
        refusal).1] at approved
      cases approved
  | tradesExhausted passed exhausted refusal => exact fun _approved => passed
  | tooFast passed inBudget full refusal => exact fun _approved => passed
  | approved passed inBudget room => exact fun _approved => passed

theorem checks_of_passed
    (passed : engine.beforeTradesPerDay riskDecisionId intent snapshot ts state = none) :
    engine.checkOrderValue riskDecisionId intent snapshot ts = none ∧
      engine.checkPositionCount riskDecisionId intent snapshot ts = none := by
  unfold beforeTradesPerDay beforeDailyLoss at passed
  simp only [Option.orElse_eq_orElse, Option.orElse_eq_or, Option.or_eq_none_iff] at passed
  exact passed.1.2.2.2.2

theorem priced_of_approved
    (approved : (engine.checkOrderIntent riskDecisionId intent snapshot ts state).1.approved =
      true) :
    estimatePrice intent snapshot ≠ none := by
  have valued := (checks_of_passed (passed_of_approved approved)).1
  intro unpriced
  unfold checkOrderValue at valued
  rw [unpriced] at valued
  cases valued

variable (engine riskDecisionId intent snapshot ts state) in
theorem tradesToday_checkOrderIntent :
    (engine.checkOrderIntent riskDecisionId intent snapshot ts state).2.tradesToday =
        state.tradesToday +
          (if (engine.checkOrderIntent riskDecisionId intent snapshot ts state).1.approved then 1
            else 0) ∧
      (state.tradesToday ≤ engine.limits.maxTradesPerDay →
        (engine.checkOrderIntent riskDecisionId intent snapshot ts state).2.tradesToday ≤
          engine.limits.maxTradesPerDay) := by
  have outcome := engine.checkOrderIntent_outcome riskDecisionId intent snapshot ts state
  generalize engine.checkOrderIntent riskDecisionId intent snapshot ts state = answer at outcome ⊢
  cases outcome with
  | refused refusal =>
      have rejected := (engine.refuses_beforeTradesPerDay _ _ _ _ _ _ refusal).1
      dsimp only
      rw [rejected, if_neg Bool.false_ne_true]
      exact ⟨rfl, id⟩
  | tradesExhausted passed exhausted refusal =>
      have rejected := (engine.refuses_checkTradesPerDay _ _ _ _ refusal).1
      dsimp only
      rw [rejected, if_neg Bool.false_ne_true]
      exact ⟨rfl, id⟩
  | tooFast passed inBudget full refusal =>
      have rejected := (engine.refuses_checkOrdersPerSecond _ _ _ _ refusal).1
      dsimp only
      rw [rejected, if_neg Bool.false_ne_true]
      exact ⟨rfl, id⟩
  | approved passed inBudget room => exact ⟨rfl, fun _within => inBudget⟩

theorem lossBreached_iff (engine : RiskEngine) (snapshot : PortfolioSnapshot) :
    (totalPnl snapshot < 0 ∧ engine.limits.maxDailyLoss < |totalPnl snapshot|) ↔
      totalPnl snapshot < -engine.limits.maxDailyLoss := by
  constructor
  · rintro ⟨negative, large⟩
    rw [abs_of_neg negative] at large
    linarith
  · intro below
    have positive := engine.limits.maxDailyLoss_pos
    have negative : totalPnl snapshot < 0 := by linarith
    rw [abs_of_neg negative]
    exact ⟨negative, by linarith⟩

/-- An intent that reaches the check of the daily loss is rejected there exactly when the
total of the snapshot is below the limit. -/
theorem lossLimited_iff
    (reaches : engine.beforeDailyLoss riskDecisionId intent snapshot ts state = none) :
    (engine.checkOrderIntent riskDecisionId intent snapshot ts state).1.reasonCode =
        .dailyLossLimitBreached ↔
      totalPnl snapshot < -engine.limits.maxDailyLoss := by
  rw [← lossBreached_iff]
  by_cases breached : totalPnl snapshot < 0 ∧ engine.limits.maxDailyLoss < |totalPnl snapshot|
  · unfold checkOrderIntent beforeTradesPerDay checkDailyLoss
    simp only [Option.orElse_eq_orElse, Option.orElse_eq_or, reaches, Option.none_or,
      if_pos breached, Option.some_or]
    exact iff_of_true rfl breached
  · have within : engine.beforeTradesPerDay riskDecisionId intent snapshot ts state = none := by
      unfold beforeTradesPerDay checkDailyLoss
      simp only [Option.orElse_eq_orElse, Option.orElse_eq_or, reaches, Option.none_or,
        if_neg breached]
    refine iff_of_false ?_ breached
    have outcome := engine.checkOrderIntent_outcome riskDecisionId intent snapshot ts state
    generalize engine.checkOrderIntent riskDecisionId intent snapshot ts state = answer at outcome ⊢
    cases outcome with
    | refused refusal =>
        rw [within] at refusal
        cases refusal
    | tradesExhausted passed exhausted refusal =>
        have listed := (engine.refuses_checkTradesPerDay _ _ _ _ refusal).2
        intro breached
        rw [breached] at listed
        cases congrArg Prod.fst (List.mem_singleton.mp listed)
    | tooFast passed inBudget full refusal =>
        have listed := (engine.refuses_checkOrdersPerSecond _ _ _ _ refusal).2
        intro breached
        rw [breached] at listed
        cases congrArg Prod.fst (List.mem_singleton.mp listed)
    | approved passed inBudget room =>
        intro breached
        cases breached

/-- A rejection for the trades per day. -/
def TradesLimited (decision : RiskDecision) : Prop :=
  (decision.reasonCode, decision.checkedLimits.map Prod.fst) =
    (.rateLimitBreached, ["trades_today", "limit"])

instance : DecidablePred TradesLimited :=
  fun _decision => inferInstanceAs (Decidable (_ = _))

theorem tradesLimited_iff :
    TradesLimited (engine.checkOrderIntent riskDecisionId intent snapshot ts state).1 ↔
      engine.beforeTradesPerDay riskDecisionId intent snapshot ts state = none ∧
        engine.limits.maxTradesPerDay ≤ state.tradesToday := by
  have outcome := engine.checkOrderIntent_outcome riskDecisionId intent snapshot ts state
  generalize engine.checkOrderIntent riskDecisionId intent snapshot ts state = answer at outcome ⊢
  cases outcome with
  | @refused decision refusal =>
      have listed := (engine.refuses_beforeTradesPerDay _ _ _ _ _ _ refusal).2
      constructor
      · intro limited
        rw [show (decision.reasonCode, decision.checkedLimits.map Prod.fst) = _ from limited]
          at listed
        exact absurd listed (by decide)
      · rintro ⟨passed, _⟩
        rw [passed] at refusal
        cases refusal
  | tradesExhausted passed exhausted refusal =>
      have listed := (engine.refuses_checkTradesPerDay _ _ _ _ refusal).2
      exact ⟨fun _limited => ⟨passed, exhausted⟩, fun _both => List.mem_singleton.mp listed⟩
  | @tooFast decision passed inBudget full refusal =>
      have listed := (engine.refuses_checkOrdersPerSecond _ _ _ _ refusal).2
      constructor
      · intro limited
        rw [show (decision.reasonCode, decision.checkedLimits.map Prod.fst) = _ from limited]
          at listed
        exact absurd listed (by decide)
      · rintro ⟨_, exhausted⟩
        exact absurd inBudget (not_lt.mpr exhausted)
  | approved passed inBudget room =>
      constructor
      · intro limited
        cases limited
      · rintro ⟨_, exhausted⟩
        exact absurd inBudget (not_lt.mpr exhausted)

theorem room_of_approved
    (approved : (engine.checkOrderIntent riskDecisionId intent snapshot ts state).1.approved =
      true) (buy : intent.side = .buy) :
    alreadyHeld intent snapshot = true ∨
      openPositions snapshot < engine.limits.maxOpenPositions := by
  have counted := (checks_of_passed (passed_of_approved approved)).2
  unfold checkPositionCount at counted
  rw [buy] at counted
  dsimp only at counted
  by_contra neither
  rw [not_or] at neither
  rw [if_pos ⟨neither.1, not_lt.mp neither.2⟩] at counted
  cases counted

/-! ### When an intent is approved -/

/-- The allow-lists, where they are set, have what the intent asks for. -/
structure Listed (engine : RiskEngine) (intent : OrderIntent) : Prop where
  symbol : ∀ allowed ∈ engine.limits.allowedSymbols, intent.symbol ∈ allowed
  product : ∀ allowed ∈ engine.limits.allowedProductTypes, intent.product ∈ allowed
  orderType : ∀ allowed ∈ engine.limits.allowedOrderTypes, intent.orderType ∈ allowed

/-- What the checks measure is within the numeric limits. -/
structure Headroom (engine : RiskEngine) (intent : OrderIntent) (snapshot : PortfolioSnapshot)
    (ts : Datetime) (state : RiskState) : Prop where
  orderValue : ∀ price ∈ estimatePrice intent snapshot,
    intent.quantity * price ≤ engine.limits.maxOrderValue
  openPositions : openPositions snapshot < engine.limits.maxOpenPositions
  dailyLoss : -engine.limits.maxDailyLoss ≤ totalPnl snapshot
  tradesToday : state.tradesToday < engine.limits.maxTradesPerDay
  thisSecond : (WindowLimiter.prune second ts state.orderTimestamps).length <
    engine.limits.maxOrdersPerSecond

instance (engine : RiskEngine) (intent : OrderIntent) : Decidable (Listed engine intent) :=
  decidable_of_iff
    ((∀ allowed ∈ engine.limits.allowedSymbols, intent.symbol ∈ allowed) ∧
      (∀ allowed ∈ engine.limits.allowedProductTypes, intent.product ∈ allowed) ∧
      ∀ allowed ∈ engine.limits.allowedOrderTypes, intent.orderType ∈ allowed)
    ⟨fun ⟨symbol, product, orderType⟩ =>
      { symbol := symbol
        product := product
        orderType := orderType },
    fun listed => ⟨listed.symbol, listed.product, listed.orderType⟩⟩

instance (engine : RiskEngine) (intent : OrderIntent) (snapshot : PortfolioSnapshot)
    (ts : Datetime) (state : RiskState) : Decidable (Headroom engine intent snapshot ts state) :=
  decidable_of_iff
    ((∀ price ∈ estimatePrice intent snapshot,
        intent.quantity * price ≤ engine.limits.maxOrderValue) ∧
      RiskEngine.openPositions snapshot < engine.limits.maxOpenPositions ∧
      -engine.limits.maxDailyLoss ≤ totalPnl snapshot ∧
      state.tradesToday < engine.limits.maxTradesPerDay ∧
      (WindowLimiter.prune second ts state.orderTimestamps).length <
        engine.limits.maxOrdersPerSecond)
    ⟨fun ⟨orderValue, openPositions, dailyLoss, tradesToday, thisSecond⟩ =>
      { orderValue := orderValue
        openPositions := openPositions
        dailyLoss := dailyLoss
        tradesToday := tradesToday
        thisSecond := thisSecond },
    fun headroom =>
      ⟨headroom.orderValue, headroom.openPositions, headroom.dailyLoss, headroom.tradesToday,
        headroom.thisSecond⟩⟩

theorem Listed.passed (listed : Listed engine intent) (riskDecisionId : String) (ts : Datetime) :
    engine.checkSymbol riskDecisionId intent ts = none ∧
      engine.checkProduct riskDecisionId intent ts = none ∧
      engine.checkOrderType riskDecisionId intent ts = none := by
  unfold checkSymbol checkProduct checkOrderType
  refine ⟨?_, ?_, ?_⟩
  · split
    · rfl
    · rename_i allowed set_
      exact if_pos (listed.symbol allowed set_)
  · split
    · rfl
    · rename_i allowed set_
      exact if_pos (listed.product allowed set_)
  · split
    · rfl
    · rename_i allowed set_
      exact if_pos (listed.orderType allowed set_)

theorem Headroom.passed (headroom : Headroom engine intent snapshot ts state) {price : ℚ}
    (priced : estimatePrice intent snapshot = some price) (riskDecisionId : String) :
    engine.checkOrderValue riskDecisionId intent snapshot ts = none ∧
      engine.checkPositionCount riskDecisionId intent snapshot ts = none ∧
      engine.checkDailyLoss riskDecisionId snapshot ts = none := by
  refine ⟨?_, ?_, ?_⟩
  · unfold checkOrderValue
    rw [priced]
    exact if_neg (not_lt.mpr (headroom.orderValue price priced))
  · unfold checkPositionCount
    cases intent.side with
    | sell => rfl
    | buy => exact if_neg (fun full => absurd headroom.openPositions (not_lt.mpr full.2))
  · unfold checkDailyLoss
    exact if_neg (fun breached =>
      absurd ((lossBreached_iff engine snapshot).mp breached) (not_lt.mpr headroom.dailyLoss))

theorem approved_of_headroom (off : state.killSwitch.active = false)
    (listed : Listed engine intent) (headroom : Headroom engine intent snapshot ts state)
    {price : ℚ} (priced : estimatePrice intent snapshot = some price) (riskDecisionId : String) :
    (engine.checkOrderIntent riskDecisionId intent snapshot ts state).1.approved = true := by
  obtain ⟨symbol, product, orderType⟩ := listed.passed riskDecisionId ts
  obtain ⟨orderValue, positionCount, dailyLoss⟩ := headroom.passed priced riskDecisionId
  have killSwitch : checkKillSwitch riskDecisionId ts state = none := by
    unfold checkKillSwitch
    rw [off, if_neg Bool.false_ne_true]
  have passed : engine.beforeTradesPerDay riskDecisionId intent snapshot ts state = none := by
    unfold beforeTradesPerDay beforeDailyLoss
    simp only [Option.orElse_eq_orElse, Option.orElse_eq_or, killSwitch, symbol, product, orderType,
      orderValue, positionCount, dailyLoss, Option.none_or]
  have trades : engine.checkTradesPerDay riskDecisionId ts state = none :=
    if_neg (not_le.mpr headroom.tradesToday)
  have rate : engine.checkOrdersPerSecond riskDecisionId ts
      (WindowLimiter.prune second ts state.orderTimestamps) = none :=
    if_neg (not_le.mpr headroom.thisSecond)
  unfold checkOrderIntent
  simp only [Option.orElse_eq_orElse, Option.orElse_eq_or, passed, trades, rate, Option.none_or]
  rfl

theorem killSwitch_checkOrderIntent :
    (engine.checkOrderIntent riskDecisionId intent snapshot ts state).2.killSwitch =
      state.killSwitch := by
  have outcome := engine.checkOrderIntent_outcome riskDecisionId intent snapshot ts state
  generalize engine.checkOrderIntent riskDecisionId intent snapshot ts state = answer at outcome ⊢
  cases outcome <;> rfl

end RiskEngine

end TradingEngine.Risk
