/-
Runs of checks, and what they tell about the state that they start from.

A check that gets as far as the budgets counts a trade or drops stale timestamps.
Either can be seen in later decisions: spaced checks run out of trades earlier, and a
rejection for the rate says how many timestamps are in the queue.
-/

import Mathlib.Data.Finset.Order
import TradingEngine.Risk.Throttle

namespace TradingEngine.Risk

open Domain WindowLimiter

/-- The arguments of `check_order_intent`, with the identifier that its decision gets. -/
structure CheckCall where
  riskDecisionId : String
  intent : OrderIntent
  snapshot : PortfolioSnapshot
  ts : Datetime
deriving DecidableEq

namespace RiskEngine

variable (engine : RiskEngine)

def check (call : CheckCall) (state : RiskState) : RiskDecision × RiskState :=
  engine.checkOrderIntent call.riskDecisionId call.intent call.snapshot call.ts state

def decisions (state : RiskState) : List CheckCall → List RiskDecision
  | [] => []
  | call :: rest => (engine.check call state).1 :: decisions (engine.check call state).2 rest

theorem check_outcome (call : CheckCall) (state : RiskState) :
    Outcome engine call.riskDecisionId call.intent call.snapshot call.ts state
      (engine.check call state) :=
  engine.checkOrderIntent_outcome call.riskDecisionId call.intent call.snapshot call.ts state

/-! ### The checks before the budgets -/

/-- No check before the budgets refuses the intent. -/
def Passes (killSwitch : KillSwitch) (intent : OrderIntent) (snapshot : PortfolioSnapshot) : Prop :=
  ∀ riskDecisionId ts (state : RiskState), state.killSwitch = killSwitch →
    engine.beforeTradesPerDay riskDecisionId intent snapshot ts state = none

variable {engine} {riskDecisionId : String} {intent : OrderIntent} {snapshot : PortfolioSnapshot}
  {ts : Datetime} {state : RiskState}

theorem passes_of_passed
    (passed : engine.beforeTradesPerDay riskDecisionId intent snapshot ts state = none) :
    engine.Passes state.killSwitch intent snapshot := by
  intro otherId otherTs other same
  unfold beforeTradesPerDay beforeDailyLoss at passed ⊢
  simp only [Option.orElse_eq_orElse, Option.orElse_eq_or, Option.or_eq_none_iff] at passed ⊢
  obtain ⟨⟨killSwitch, symbol, product, orderType, orderValue, positionCount⟩, dailyLoss⟩ := passed
  refine ⟨⟨?_, ?_, ?_, ?_, ?_, ?_⟩, ?_⟩
  · unfold checkKillSwitch at killSwitch ⊢
    rw [same]
    grind
  · unfold checkSymbol at symbol ⊢
    grind
  · unfold checkProduct at product ⊢
    grind
  · unfold checkOrderType at orderType ⊢
    grind
  · unfold checkOrderValue at orderValue ⊢
    grind
  · unfold checkPositionCount at positionCount ⊢
    grind
  · unfold checkDailyLoss at dailyLoss ⊢
    grind

/-! ### Runs of approvals -/

def callAt (intent : OrderIntent) (snapshot : PortfolioSnapshot) (ts : Datetime) : CheckCall :=
  { riskDecisionId := "risk"
    intent := intent
    snapshot := snapshot
    ts := ts }

def spaced (intent : OrderIntent) (snapshot : PortfolioSnapshot) (start : Datetime) :
    ℕ → List CheckCall
  | 0 => []
  | remaining + 1 =>
      callAt intent snapshot start :: spaced intent snapshot (start + second) remaining

theorem length_spaced (intent : OrderIntent) (snapshot : PortfolioSnapshot) (start : Datetime)
    (count : ℕ) : (spaced intent snapshot start count).length = count := by
  induction count generalizing start with
  | zero => rfl
  | succ remaining ih => exact congrArg (· + 1) (ih (start + second))

theorem check_of_idle {call : CheckCall}
    (passes : engine.Passes state.killSwitch call.intent call.snapshot)
    (stale : ∀ time ∈ state.orderTimestamps, time + second ≤ call.ts)
    (inBudget : state.tradesToday < engine.limits.maxTradesPerDay) :
    engine.check call state = (approve call.riskDecisionId call.ts,
      { state with
        orderTimestamps := [call.ts]
        tradesToday := state.tradesToday + 1 }) := by
  have passed := passes call.riskDecisionId call.ts state rfl
  have trades : engine.checkTradesPerDay call.riskDecisionId call.ts state = none :=
    if_neg (not_le.mpr inBudget)
  have empty : prune second call.ts state.orderTimestamps = [] :=
    prune_eq_nil (fun time member => le_sub_iff_add_le'.mpr (stale time member))
  have rate : engine.checkOrdersPerSecond call.riskDecisionId call.ts [] = none :=
    if_neg (not_le.mpr engine.limits.maxOrdersPerSecond_pos)
  unfold check checkOrderIntent
  simp only [Option.orElse_eq_orElse, Option.orElse_eq_or, passed, trades, Option.none_or, empty,
    rate, List.nil_append]

theorem approved_of_spaced {start : Datetime} {count : ℕ}
    (passes : engine.Passes state.killSwitch intent snapshot)
    (stale : ∀ time ∈ state.orderTimestamps, time + second ≤ start)
    (within : state.tradesToday + count ≤ engine.limits.maxTradesPerDay) :
    ∀ decision ∈ engine.decisions state (spaced intent snapshot start count),
      decision.approved = true := by
  induction count generalizing state start with
  | zero => exact nofun
  | succ remaining ih =>
      have inBudget : state.tradesToday < engine.limits.maxTradesPerDay := by omega
      have first := @check_of_idle engine state (callAt intent snapshot start) passes stale inBudget
      intro decision member
      unfold spaced decisions at member
      rw [first] at member
      rcases List.mem_cons.mp member with rfl | later
      · rfl
      · refine ih ?_ ?_ ?_ decision later
        · exact passes
        · intro time sent
          exact le_of_eq (congrArg (· + second) (List.mem_singleton.mp sent))
        · dsimp only
          omega

theorem tradesToday_of_approved {call : CheckCall}
    (within : state.tradesToday ≤ engine.limits.maxTradesPerDay)
    (approved : (engine.check call state).1.approved = true) :
    (engine.check call state).2.tradesToday = state.tradesToday + 1 ∧
      (engine.check call state).2.tradesToday ≤ engine.limits.maxTradesPerDay := by
  obtain ⟨counted, bounded⟩ := engine.tradesToday_checkOrderIntent call.riskDecisionId call.intent
    call.snapshot call.ts state
  unfold check at approved
  rw [if_pos approved] at counted
  exact ⟨counted, bounded within⟩

theorem trades_of_approved {calls : List CheckCall}
    (within : state.tradesToday ≤ engine.limits.maxTradesPerDay)
    (approved : ∀ decision ∈ engine.decisions state calls, decision.approved = true) :
    state.tradesToday + calls.length ≤ engine.limits.maxTradesPerDay := by
  induction calls generalizing state with
  | nil => exact within
  | cons call rest ih =>
      obtain ⟨counted, bounded⟩ := tradesToday_of_approved within
        (approved _ List.mem_cons_self)
      have others := ih bounded (fun decision member =>
        approved decision (List.mem_cons_of_mem _ member))
      rw [counted] at others
      rw [List.length_cons]
      omega

/-! ### Marks -/

variable (engine) in
/-- What a check that gets as far as the budgets leaves behind. -/
structure Marked (before after : RiskState) : Prop where
  killSwitch : after.killSwitch = before.killSwitch
  passes : ∃ intent snapshot, engine.Passes before.killSwitch intent snapshot
  within : after.tradesToday ≤ engine.limits.maxTradesPerDay
  mark : before.tradesToday < after.tradesToday ∨
    (after.tradesToday = before.tradesToday ∧ after.tradesToday < engine.limits.maxTradesPerDay ∧
      engine.limits.maxOrdersPerSecond ≤ after.orderTimestamps.length ∧
      after.orderTimestamps.length < before.orderTimestamps.length)

theorem Marked.check {before after : RiskState} (marked : engine.Marked before after)
    (call : CheckCall) : engine.Marked before (engine.check call after).2 := by
  have outcome := engine.check_outcome call after
  generalize engine.check call after = answer at outcome ⊢
  cases outcome with
  | refused refusal => exact marked
  | tradesExhausted passed exhausted refusal => exact marked
  | tooFast passed inBudget full refusal =>
      refine { marked with mark := ?_ }
      rcases marked.mark with more | ⟨same, left, _, fewer⟩
      · exact Or.inl more
      · exact Or.inr ⟨same, left, full, lt_of_le_of_lt length_prune_le fewer⟩
  | approved passed inBudget room =>
      refine
        { killSwitch := marked.killSwitch
          passes := marked.passes
          within := inBudget
          mark := Or.inl ?_ }
      dsimp only
      rcases marked.mark with more | ⟨same, _, _, _⟩
      · omega
      · omega

/-- The check of a call finds no reason to touch the counters. -/
def LeavesCounters (engine : RiskEngine) (state : RiskState) (call : CheckCall) : Prop :=
  engine.beforeTradesPerDay call.riskDecisionId call.intent call.snapshot call.ts state ≠ none ∨
    engine.limits.maxTradesPerDay ≤ state.tradesToday ∨
    (engine.limits.maxOrdersPerSecond ≤ state.orderTimestamps.length ∧
      ∀ head ∈ state.orderTimestamps.head?, call.ts - head < second)

theorem check_of_leavesCounters {call : CheckCall} (leaves : LeavesCounters engine state call) :
    (engine.check call state).2 = state := by
  have outcome := engine.check_outcome call state
  generalize engine.check call state = answer at outcome ⊢
  cases outcome with
  | refused refusal => rfl
  | tradesExhausted passed exhausted refusal => rfl
  | tooFast passed inBudget full refusal =>
      rcases leaves with refused | exhausted | ⟨_, fresh⟩
      · exact absurd passed refused
      · exact absurd inBudget (not_lt.mpr exhausted)
      · rw [prune_eq_self_iff.mpr fresh]
  | approved passed inBudget room =>
      rcases leaves with refused | exhausted | ⟨full, fresh⟩
      · exact absurd passed refused
      · exact absurd inBudget (not_lt.mpr exhausted)
      · rw [prune_eq_self_iff.mpr fresh] at room
        exact absurd room (not_lt.mpr full)

theorem marked_of_not_leavesCounters {call : CheckCall}
    (touches : ¬ LeavesCounters engine state call) :
    engine.Marked state (engine.check call state).2 := by
  unfold LeavesCounters at touches
  simp only [not_or, not_not] at touches
  obtain ⟨passed, inBudget, notKept⟩ := touches
  have outcome := engine.check_outcome call state
  generalize engine.check call state = answer at outcome ⊢
  have passes := passes_of_passed passed
  cases outcome with
  | refused refusal =>
      rw [passed] at refusal
      cases refusal
  | tradesExhausted passed exhausted refusal => exact absurd exhausted inBudget
  | tooFast passed inBudget full refusal =>
      refine
        { killSwitch := rfl
          passes := ⟨_, _, passes⟩
          within := le_of_lt inBudget
          mark := Or.inr ⟨rfl, inBudget, full, ?_⟩ }
      have shorter : (prune second call.ts state.orderTimestamps).length ≤
          state.orderTimestamps.length := length_prune_le
      refine lt_of_le_of_ne shorter (fun same => notKept ⟨?_, ?_⟩)
      · exact le_trans full shorter
      · apply prune_eq_self_iff.mp
        exact (List.dropWhile_suffix _).eq_of_length same
  | approved passed inBudget room =>
      exact
        { killSwitch := rfl
          passes := ⟨_, _, passes⟩
          within := inBudget
          mark := Or.inl (Nat.lt_succ_self _) }

/-! ### Marks are seen -/

private theorem toString_inj {left right : ℕ} (same : toString left = toString right) :
    left = right := by
  have digits := congrArg (fun text => Nat.ofDigitChars 10 text.toList 0) same
  simpa [Nat.toString_eq_repr, Nat.toList_repr] using digits

theorem checkedLimits_of_full {early : Datetime}
    (passes : engine.Passes state.killSwitch intent snapshot)
    (inBudget : state.tradesToday < engine.limits.maxTradesPerDay)
    (full : engine.limits.maxOrdersPerSecond ≤ state.orderTimestamps.length)
    (before : ∀ time ∈ state.orderTimestamps, early ≤ time) :
    (engine.check (callAt intent snapshot early) state).1.checkedLimits =
      [("orders_this_second", toString state.orderTimestamps.length),
        ("limit", toString engine.limits.maxOrdersPerSecond)] := by
  have passed := passes "risk" early state rfl
  have trades : engine.checkTradesPerDay "risk" early state = none :=
    if_neg (not_le.mpr inBudget)
  have kept : prune second early state.orderTimestamps = state.orderTimestamps := by
    apply prune_eq_self_iff.mpr
    intro head first
    have later := before head (List.mem_of_mem_head? first)
    exact lt_of_le_of_lt (sub_nonpos.mpr later) (by decide)
  unfold RiskEngine.check callAt checkOrderIntent checkOrdersPerSecond
  simp only [Option.orElse_eq_orElse, Option.orElse_eq_or, passed, trades, Option.none_or, kept,
    if_pos full]
  rfl

theorem exists_decisions_ne {before after : RiskState} (marked : engine.Marked before after) :
    ∃ later, engine.decisions after later ≠ engine.decisions before later := by
  obtain ⟨intent, snapshot, passes⟩ := marked.passes
  rcases marked.mark with more | ⟨same, inBudget, full, fewer⟩
  · -- The marked state runs out of trades before the other one does.
    have within := marked.within
    obtain ⟨last, bound⟩ := Finset.exists_le before.orderTimestamps.toFinset
    refine ⟨spaced intent snapshot (last + second)
      (engine.limits.maxTradesPerDay - before.tradesToday), fun alike => ?_⟩
    have approved := @approved_of_spaced engine intent snapshot before (last + second)
      (engine.limits.maxTradesPerDay - before.tradesToday) passes
      (fun time member => Int.add_le_add_right (bound time (List.mem_toFinset.mpr member)) _)
      (by omega)
    rw [← alike] at approved
    have counted := trades_of_approved within approved
    rw [length_spaced] at counted
    omega
  · -- Both states reject an early check, with the lengths of their queues.
    obtain ⟨last, bound⟩ := Finset.exists_le
      ((before.orderTimestamps ++ after.orderTimestamps).map (fun time => -time)).toFinset
    have early : ∀ time ∈ before.orderTimestamps ++ after.orderTimestamps, -last ≤ time := by
      intro time member
      exact neg_le.mp (bound (-time) (List.mem_toFinset.mpr (List.mem_map_of_mem member)))
    have passesAfter : engine.Passes after.killSwitch intent snapshot := by
      rw [marked.killSwitch]
      exact passes
    have limitsAfter := checkedLimits_of_full passesAfter inBudget full
      (fun time member => early time (List.mem_append_right _ member))
    have limitsBefore := checkedLimits_of_full passes (by omega : before.tradesToday < _)
      (le_of_lt (lt_of_le_of_lt full fewer))
      (fun time member => early time (List.mem_append_left _ member))
    refine ⟨[callAt intent snapshot (-last)], fun alike => ?_⟩
    have reported := congrArg RiskDecision.checkedLimits (List.cons.inj alike).1
    rw [limitsAfter, limitsBefore] at reported
    have lengths := toString_inj (Prod.mk.inj (List.cons.inj reported).1).2
    omega

end RiskEngine

end TradingEngine.Risk
