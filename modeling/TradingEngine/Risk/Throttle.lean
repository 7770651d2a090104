/-
The budgets of the risk engine over whole runs.

Behind the pruned queue stands the list of all approvals since the last reset.  As
long as time does not run backwards the queue prunes like that list, so the engine
decides as if it kept them all.
-/

import TradingEngine.Risk.RiskEngine

namespace TradingEngine.Risk

open Domain WindowLimiter

/-! ### Runs -/

inductive RiskEvent where
  | check (riskDecisionId : String) (intent : OrderIntent) (snapshot : PortfolioSnapshot)
      (ts : Datetime)
  | activate (reason : String)
  | deactivate
  | resetDailyState
deriving DecidableEq

def RiskEvent.time? : RiskEvent → Option Datetime
  | .check _ _ _ ts => some ts
  | .activate _ => none
  | .deactivate => none
  | .resetDailyState => none

def times (events : List RiskEvent) : List Datetime :=
  events.filterMap RiskEvent.time?

/-- The timestamps of the checks do not decrease. -/
def Timely (events : List RiskEvent) : Prop :=
  (times events).Pairwise (fun earlier later => earlier ≤ later)

instance (events : List RiskEvent) : Decidable (Timely events) :=
  inferInstanceAs (Decidable (List.Pairwise _ _))

/-- An event with the decision on it, if it is a check. -/
abbrev LogEntry := RiskEvent × Option RiskDecision

def LogEntry.approvedAt (entry : LogEntry) : Option Datetime :=
  entry.2.bind (fun decision => if decision.approved then entry.1.time? else none)

def LogEntry.rejected (entry : LogEntry) : Bool :=
  entry.2.any (fun decision => !decision.approved)

def approvalTimes (entries : List LogEntry) : List Datetime :=
  entries.filterMap LogEntry.approvedAt

namespace RiskEngine

variable (engine : RiskEngine)

def perform (event : RiskEvent) (state : RiskState) : Option RiskDecision × RiskState :=
  match event with
  | .check riskDecisionId intent snapshot ts =>
      let answer := engine.checkOrderIntent riskDecisionId intent snapshot ts state
      (some answer.1, answer.2)
  | .activate reason =>
      (none, { state with killSwitch := (state.killSwitch.activate engine.py reason).2 })
  | .deactivate => (none, { state with killSwitch := state.killSwitch.deactivate })
  | .resetDailyState => (none, state.resetDailyState)

def stateAfter (state : RiskState) : List RiskEvent → RiskState
  | [] => state
  | event :: rest => stateAfter (engine.perform event state).2 rest

def log (state : RiskState) : List RiskEvent → List LogEntry
  | [] => []
  | event :: rest =>
      (event, (engine.perform event state).1) :: log (engine.perform event state).2 rest

end RiskEngine

theorem times_cons (event : RiskEvent) (rest : List RiskEvent) :
    times (event :: rest) = event.time?.toList ++ times rest := by
  unfold times
  rw [List.filterMap_cons]
  cases event.time? <;> rfl

theorem times_append (earlier later : List RiskEvent) :
    times (earlier ++ later) = times earlier ++ times later :=
  List.filterMap_append

theorem Timely.tail {event : RiskEvent} {rest : List RiskEvent}
    (timely : Timely (event :: rest)) : Timely rest := by
  unfold Timely at timely ⊢
  rw [times_cons] at timely
  exact (List.pairwise_append.mp timely).2.1

theorem Timely.later {event : RiskEvent} {rest : List RiskEvent} {ts : Datetime}
    (timely : Timely (event :: rest)) (stamped : event.time? = some ts) :
    ∀ future ∈ times rest, ts ≤ future := by
  unfold Timely at timely
  rw [times_cons, stamped] at timely
  exact (List.pairwise_append.mp timely).2.2 ts List.mem_cons_self

/-! ### States that decide alike -/

/-- States that differ at most in stale timestamps, as far as the future checks can
tell. -/
structure Alike (future : List Datetime) (left right : RiskState) : Prop where
  killSwitch : left.killSwitch = right.killSwitch
  tradesToday : left.tradesToday = right.tradesToday
  queue : ∀ ts ∈ future,
    prune second ts left.orderTimestamps = prune second ts right.orderTimestamps

theorem Alike.refl (future : List Datetime) (state : RiskState) : Alike future state state :=
  { killSwitch := rfl
    tradesToday := rfl
    queue := fun _ts _member => rfl }

section Alike

variable {event : RiskEvent} {rest : List RiskEvent} {left right : RiskState}

theorem Alike.perform (engine : RiskEngine) (timely : Timely (event :: rest))
    (alike : Alike (times (event :: rest)) left right) :
    (engine.perform event left).1 = (engine.perform event right).1 ∧
      Alike (times rest) (engine.perform event left).2 (engine.perform event right).2 := by
  obtain ⟨killSwitch, tradesToday, queue⟩ := alike
  have queueRest : ∀ ts ∈ times rest,
      prune second ts left.orderTimestamps = prune second ts right.orderTimestamps := by
    intro ts member
    apply queue
    rw [times_cons]
    exact List.mem_append_right _ member
  cases event with
  | activate reason =>
      refine ⟨rfl, ?_, tradesToday, queueRest⟩
      change (left.killSwitch.activate engine.py reason).2 = _
      rw [killSwitch]
      rfl
  | deactivate => exact ⟨rfl, rfl, tradesToday, queueRest⟩
  | resetDailyState => exact ⟨rfl, killSwitch, rfl, fun _ts _member => rfl⟩
  | check riskDecisionId intent snapshot ts =>
      have forward := timely.later rfl
      have here := queue ts (by rw [times_cons]; exact List.mem_append_left _ List.mem_cons_self)
      have earlier : engine.beforeTradesPerDay riskDecisionId intent snapshot ts left =
          engine.beforeTradesPerDay riskDecisionId intent snapshot ts right := by
        unfold RiskEngine.beforeTradesPerDay RiskEngine.beforeDailyLoss
          RiskEngine.checkKillSwitch
        rw [killSwitch]
      have trades : engine.checkTradesPerDay riskDecisionId ts left =
          engine.checkTradesPerDay riskDecisionId ts right := by
        unfold RiskEngine.checkTradesPerDay
        rw [tradesToday]
      unfold RiskEngine.perform RiskEngine.checkOrderIntent
      dsimp only
      rw [earlier, trades, here]
      cases (engine.beforeTradesPerDay riskDecisionId intent snapshot ts right <|>
          engine.checkTradesPerDay riskDecisionId ts right) with
      | some decision => exact ⟨rfl, killSwitch, tradesToday, queueRest⟩
      | none =>
          dsimp only
          cases engine.checkOrdersPerSecond riskDecisionId ts
              (prune second ts right.orderTimestamps) with
          | some decision => exact ⟨rfl, killSwitch, tradesToday, fun _ts _member => rfl⟩
          | none =>
              refine ⟨rfl, killSwitch, ?_, fun _ts _member => rfl⟩
              change left.tradesToday + 1 = right.tradesToday + 1
              rw [tradesToday]

theorem alike_of_rejected {engine : RiskEngine} (timely : Timely (event :: rest))
    (state : RiskState)
    (rejected : LogEntry.rejected (event, (engine.perform event state).1) = true) :
    Alike (times rest) (engine.perform event state).2 state := by
  cases event with
  | activate reason => cases rejected
  | deactivate => cases rejected
  | resetDailyState => cases rejected
  | check riskDecisionId intent snapshot ts =>
      have outcome := engine.checkOrderIntent_outcome riskDecisionId intent snapshot ts state
      change (!(engine.checkOrderIntent riskDecisionId intent snapshot ts state).1.approved)
        = true at rejected
      change Alike _ (engine.checkOrderIntent riskDecisionId intent snapshot ts state).2 state
      generalize engine.checkOrderIntent riskDecisionId intent snapshot ts state = answer
        at outcome rejected
      cases outcome with
      | refused refusal => exact Alike.refl _ state
      | tradesExhausted passed exhausted refusal => exact Alike.refl _ state
      | tooFast passed inBudget full refusal =>
          exact
            { killSwitch := rfl
              tradesToday := rfl
              queue := fun future member => prune_prune (timely.later rfl future member) }
      | approved passed inBudget room => cases rejected

theorem Alike.trans {future : List Datetime} {middle : RiskState}
    (first : Alike future left middle) (last : Alike future middle right) :
    Alike future left right :=
  { killSwitch := first.killSwitch.trans last.killSwitch
    tradesToday := first.tradesToday.trans last.tradesToday
    queue := fun ts member => (first.queue ts member).trans (last.queue ts member) }

theorem Alike.symm {future : List Datetime} (alike : Alike future left right) :
    Alike future right left :=
  { killSwitch := alike.killSwitch.symm
    tradesToday := alike.tradesToday.symm
    queue := fun ts member => (alike.queue ts member).symm }

theorem Alike.tail (alike : Alike (times (event :: rest)) left right) :
    Alike (times rest) left right :=
  { killSwitch := alike.killSwitch
    tradesToday := alike.tradesToday
    queue := by
      intro ts member
      apply alike.queue
      rw [times_cons]
      exact List.mem_append_right _ member }

end Alike

/-! ### Rejected checks consume no budget -/

/-- A sublist that contains what a filter keeps either starts with the same entry or
leaves it out because the filter does. -/
theorem kept_cases {α : Type} {keep : α → Bool} {entry : α} {rest kept : List α}
    (inside : kept.Sublist (entry :: rest))
    (contains : ((entry :: rest).filter keep).Sublist kept) :
    (∃ others, kept = entry :: others ∧ others.Sublist rest ∧
        (rest.filter keep).Sublist others) ∨
      (keep entry = false ∧ kept.Sublist rest ∧ (rest.filter keep).Sublist kept) := by
  cases inside with
  | cons _ inside =>
      right
      cases chosen : keep entry with
      | false =>
          rw [List.filter_cons_of_neg (by simp [chosen])] at contains
          exact ⟨rfl, inside, contains⟩
      | true =>
          have twice : ((entry :: rest).filter keep).filter keep = (entry :: rest).filter keep := by
            simp [List.filter_filter]
          have shorter := (contains.filter keep).trans (inside.filter keep)
          rw [twice, List.filter_cons_of_pos chosen] at shorter
          exact absurd shorter.length_le (Nat.not_succ_le_self _)
  | cons_cons _ inside =>
      rename_i others
      refine Or.inl ⟨others, rfl, inside, ?_⟩
      cases chosen : keep entry with
      | true =>
          rw [List.filter_cons_of_pos chosen] at contains
          exact List.cons_sublist_cons.mp contains
      | false =>
          have kept := contains.filter keep
          rw [List.filter_filter, List.filter_cons_of_neg (by simp [chosen]),
            List.filter_cons_of_neg (by simp [chosen])] at kept
          simp only [Bool.and_self] at kept
          exact kept.trans List.filter_sublist

theorem log_of_kept {engine : RiskEngine} {left right : RiskState} {events : List RiskEvent}
    (timely : Timely events) (alike : Alike (times events) left right) {kept : List LogEntry}
    (inside : kept.Sublist (engine.log right events))
    (contains : ((engine.log right events).filter (fun entry => !entry.rejected)).Sublist kept) :
    engine.log left (kept.map Prod.fst) = kept := by
  induction events generalizing left right kept with
  | nil =>
      rw [List.sublist_nil.mp inside]
      rfl
  | cons event rest ih =>
      rcases kept_cases inside contains with
        ⟨others, rfl, insideRest, containsRest⟩ | ⟨refused, insideRest, containsRest⟩
      · obtain ⟨sameDecision, alikeRest⟩ := Alike.perform engine timely alike
        rw [List.map_cons, RiskEngine.log, sameDecision]
        rw [ih timely.tail alikeRest insideRest containsRest]
      · have rejected : LogEntry.rejected (event, (engine.perform event right).1) = true := by
          simpa using refused
        have unchanged := (alike_of_rejected timely right rejected).symm
        exact ih timely.tail (alike.tail.trans unchanged) insideRest containsRest

/-! ### Budgets -/

/-- What the approvals since the last reset say about the state. -/
structure Counted (engine : RiskEngine) (future admitted : List Datetime) (state : RiskState) :
    Prop where
  tradesToday : state.tradesToday = admitted.length
  within : admitted.length ≤ engine.limits.maxTradesPerDay
  ordered : admitted.Pairwise (fun earlier later => earlier ≤ later)
  throttled : Throttled second engine.limits.maxOrdersPerSecond admitted
  before : ∀ time ∈ admitted, ∀ ts ∈ future, time ≤ ts
  queue : ∀ ts ∈ future, prune second ts state.orderTimestamps = prune second ts admitted

theorem Counted.fresh (engine : RiskEngine) (future : List Datetime) {state : RiskState}
    (trades : state.tradesToday = 0) (queue : state.orderTimestamps = []) :
    Counted engine future [] state :=
  { tradesToday := trades
    within := Nat.zero_le _
    ordered := List.Pairwise.nil
    throttled := Throttled.nil
    before := nofun
    queue := fun _ts _member => by rw [queue] }

section Counted

variable {engine : RiskEngine} {event : RiskEvent} {rest : List RiskEvent}
  {admitted : List Datetime} {state : RiskState}

theorem Counted.tail (counted : Counted engine (times (event :: rest)) admitted state) :
    Counted engine (times rest) admitted state := by
  have later : ∀ ts ∈ times rest, ts ∈ times (event :: rest) := by
    intro ts member
    rw [times_cons]
    exact List.mem_append_right _ member
  exact
    { counted with
      before := fun time admittedMember ts member =>
        counted.before time admittedMember ts (later ts member)
      queue := fun ts member => counted.queue ts (later ts member) }

theorem Counted.approved {future : List Datetime} {ts : Datetime}
    (counted : Counted engine (ts :: future) admitted state)
    (forward : ∀ later ∈ future, ts ≤ later)
    (inBudget : state.tradesToday < engine.limits.maxTradesPerDay)
    (room : (prune second ts state.orderTimestamps).length < engine.limits.maxOrdersPerSecond) :
    Counted engine future (admitted ++ [ts])
      { state with
        orderTimestamps := prune second ts state.orderTimestamps ++ [ts]
        tradesToday := state.tradesToday + 1 } := by
  have same := counted.queue ts List.mem_cons_self
  constructor
  · change state.tradesToday + 1 = _
    rw [counted.tradesToday, List.length_append, List.length_singleton]
  · rw [List.length_append, List.length_singleton, ← counted.tradesToday]
    exact inBudget
  · refine List.pairwise_append.mpr ⟨counted.ordered, List.pairwise_singleton _ _, ?_⟩
    intro time member last lastMember
    rw [List.mem_singleton.mp lastMember]
    exact counted.before time member ts List.mem_cons_self
  · apply counted.throttled.append
    rw [← prune_eq_recent counted.ordered, ← same]
    exact room
  · intro time member later laterMember
    rcases List.mem_append.mp member with earlier | last
    · exact counted.before time earlier later (List.mem_cons_of_mem ts laterMember)
    · rw [List.mem_singleton.mp last]
      exact forward later laterMember
  · intro later member
    exact prune_append ((prune_prune (le_refl ts)).trans same) ts (forward later member)

theorem Counted.perform (timely : Timely (event :: rest))
    (counted : Counted engine (times (event :: rest)) admitted state)
    (noReset : event ≠ .resetDailyState) :
    Counted engine (times rest)
      (admitted ++ (LogEntry.approvedAt (event, (engine.perform event state).1)).toList)
      (engine.perform event state).2 := by
  have carried := counted.tail
  cases event with
  | activate reason =>
      rw [show LogEntry.approvedAt _ = none from rfl, Option.toList_none, List.append_nil]
      exact { carried with tradesToday := carried.tradesToday }
  | deactivate =>
      rw [show LogEntry.approvedAt _ = none from rfl, Option.toList_none, List.append_nil]
      exact { carried with tradesToday := carried.tradesToday }
  | resetDailyState => contradiction
  | check riskDecisionId intent snapshot ts =>
      have forward := timely.later rfl
      have outcome := engine.checkOrderIntent_outcome riskDecisionId intent snapshot ts state
      change Counted engine _
        (admitted ++
          (if (engine.checkOrderIntent riskDecisionId intent snapshot ts state).1.approved
            then some ts else none).toList)
        (engine.checkOrderIntent riskDecisionId intent snapshot ts state).2
      generalize engine.checkOrderIntent riskDecisionId intent snapshot ts state = answer
        at outcome
      cases outcome with
      | refused refusal =>
          have rejected :=
            (engine.refuses_beforeTradesPerDay riskDecisionId intent snapshot ts state _ refusal).1
          rw [if_neg (by simp [rejected]), Option.toList_none, List.append_nil]
          exact carried
      | tradesExhausted passed exhausted refusal =>
          have rejected := (engine.refuses_checkTradesPerDay riskDecisionId ts state _ refusal).1
          rw [if_neg (by simp [rejected]), Option.toList_none, List.append_nil]
          exact carried
      | tooFast passed inBudget full refusal =>
          have rejected := (engine.refuses_checkOrdersPerSecond riskDecisionId ts _ _ refusal).1
          rw [if_neg (by simp [rejected]), Option.toList_none, List.append_nil]
          refine { carried with tradesToday := carried.tradesToday, queue := ?_ }
          intro future member
          exact (prune_prune (forward future member)).trans (carried.queue future member)
      | approved passed inBudget room =>
          rw [times_cons] at counted
          exact counted.approved forward inBudget room

theorem Counted.run {later : List RiskEvent} {period : List RiskEvent}
    (timely : Timely (period ++ later))
    (counted : Counted engine (times (period ++ later)) admitted state)
    (noReset : RiskEvent.resetDailyState ∉ period) :
    Counted engine (times later) (admitted ++ approvalTimes (engine.log state period))
      (engine.stateAfter state period) := by
  induction period generalizing admitted state with
  | nil =>
      rw [approvalTimes, RiskEngine.log, List.filterMap_nil, List.append_nil]
      exact counted
  | cons event rest ih =>
      obtain ⟨notReset, restNoReset⟩ := not_or.mp (mt List.mem_cons.mpr noReset)
      have next := counted.perform timely (Ne.symm notReset)
      have followed := ih timely.tail next restNoReset
      have entries : approvalTimes (engine.log state (event :: rest)) =
          (LogEntry.approvedAt (event, (engine.perform event state).1)).toList ++
            approvalTimes (engine.log (engine.perform event state).2 rest) := by
        unfold approvalTimes
        rw [RiskEngine.log, List.filterMap_cons]
        cases LogEntry.approvedAt (event, (engine.perform event state).1) <;> rfl
      rw [entries, ← List.append_assoc]
      exact followed

theorem Counted.reached {later : List RiskEvent} {earlier : List RiskEvent}
    (timely : Timely (earlier ++ later))
    (counted : Counted engine (times (earlier ++ later)) admitted state) :
    ∃ reached, Counted engine (times later) reached (engine.stateAfter state earlier) := by
  induction earlier generalizing admitted state with
  | nil => exact ⟨admitted, counted⟩
  | cons event rest ih =>
      by_cases reset : event = .resetDailyState
      · subst reset
        exact ih timely.tail (Counted.fresh engine _ rfl rfl)
      · exact ih timely.tail (counted.perform timely reset)

end Counted

theorem rejected_of_active {engine : RiskEngine} {state : RiskState}
    (active : state.killSwitch.active = true) (event : RiskEvent) :
    LogEntry.approvedAt (event, (engine.perform event state).1) = none := by
  cases event with
  | activate reason => rfl
  | deactivate => rfl
  | resetDailyState => rfl
  | check riskDecisionId intent snapshot ts =>
      change (if (engine.checkOrderIntent riskDecisionId intent snapshot ts state).1.approved
        then some ts else none) = none
      unfold RiskEngine.checkOrderIntent RiskEngine.beforeTradesPerDay
        RiskEngine.beforeDailyLoss RiskEngine.checkKillSwitch
      rw [if_pos active]
      rfl

/-- The throttle of a risk engine over any events whose checks do not run backwards. -/
theorem risk_throttle (engine : RiskEngine) (killSwitch : KillSwitch) (events : List RiskEvent)
    (timely : Timely events) :
    (∀ earlier period later, events = earlier ++ period ++ later →
      RiskEvent.resetDailyState ∉ period →
        let admitted := approvalTimes
          (engine.log (engine.stateAfter (RiskState.new killSwitch) earlier) period)
        admitted.length ≤ engine.limits.maxTradesPerDay ∧
          ∀ start, (admitted.filter (fun time => start ≤ time ∧ time < start + second)).length ≤
            engine.limits.maxOrdersPerSecond) ∧
      (∀ earlier event later, events = earlier ++ event :: later →
        (engine.stateAfter (RiskState.new killSwitch) earlier).killSwitch.active = true →
          LogEntry.approvedAt (event,
            (engine.perform event (engine.stateAfter (RiskState.new killSwitch) earlier)).1) =
              none) ∧
      ∀ kept : List LogEntry, kept.Sublist (engine.log (RiskState.new killSwitch) events) →
        ((engine.log (RiskState.new killSwitch) events).filter
            (fun entry => !entry.rejected)).Sublist kept →
          engine.log (RiskState.new killSwitch) (kept.map Prod.fst) = kept := by
  refine ⟨?_, fun _earlier event _later _split active => rejected_of_active active event,
    fun kept inside contains => log_of_kept timely (Alike.refl _ _) inside contains⟩
  rintro earlier period later rfl noReset
  rw [List.append_assoc] at timely
  have fresh : Counted engine (times (earlier ++ (period ++ later))) []
      (RiskState.new killSwitch) :=
    Counted.fresh engine _ rfl rfl
  obtain ⟨reached, start⟩ := Counted.reached timely fresh
  have timelyRest : Timely (period ++ later) := by
    unfold Timely at timely ⊢
    rw [times_append] at timely
    exact (List.pairwise_append.mp timely).2.1
  have counted := start.run timelyRest noReset
  dsimp only
  generalize approvalTimes (engine.log _ period) = admitted at counted ⊢
  constructor
  · have within := counted.within
    rw [List.length_append] at within
    omega
  · intro first
    have bound := counted.throttled.window_le counted.ordered
      (fun time => first ≤ time ∧ time < first + second) (by omega)
    rw [List.filter_append, List.length_append] at bound
    omega

/-! ### A burst of checks -/

def slowEngine : RiskEngine :=
  RiskEngine.ascii
    { RiskLimits.standard with
      maxTradesPerDay := 3
      maxOrdersPerSecond := 2
      maxTradesPerDay_pos := Nat.le_add_left 1 2
      maxOrdersPerSecond_pos := Nat.two_pos }

def pricedIntent : OrderIntent :=
  { sampleIntent with
    price := some 100
    shape :=
      { quantity_pos := by decide
        limit_priced := nofun
        stop_triggered := by rintro (limit | limit) <;> cases limit } }

def burst : List RiskEvent :=
  [.check "risk_1" pricedIntent emptySnapshot 0, .check "risk_2" pricedIntent emptySnapshot 400000,
    .check "risk_3" pricedIntent emptySnapshot 800000, .activate "halt",
    .check "risk_4" pricedIntent emptySnapshot 1200000]

theorem burst_throttled :
    (approvalTimes (slowEngine.log (RiskState.new KillSwitch.new) burst)).length ≤ 3 := by
  have timely : Timely burst := by
    decide
  have budgets := (risk_throttle slowEngine KillSwitch.new burst timely).1
  exact (budgets [] burst [] (by decide) (by decide)).1

end TradingEngine.Risk
