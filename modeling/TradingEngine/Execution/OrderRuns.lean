/-
Runs of the order manager together with reconciliation.

Status changes after the creation of an order come from the broker: they follow an
edge of the transition table to a reported status and keep the risk decision.
A created order carries its decision from the start.  Both keep `SoundLedger`,
which holds in every ledger that a run reaches.
-/

import Mathlib.Logic.Relation
import TradingEngine.Execution.OrderManager
import TradingEngine.General.EventRun
import TradingEngine.Reconciliation.Pass

namespace TradingEngine.Execution

open Domain Broker Reconciliation Relation

variable {ρ : Type} {py : Python} {ledger next : OrderLedger}

/-! ### The invariant -/

/-- The order carries the id of an approved decision of the ledger. -/
def Backed (ledger : OrderLedger) (order : InternalOrder) : Prop :=
  ∃ decision ∈ ledger.riskDecisions, decision.approved = true ∧
    order.riskDecisionId = some decision.riskDecisionId

structure SoundLedger (ledger : OrderLedger) : Prop where
  path : ∀ id order, ledger.order? id = some order →
    StatusPath (ledger.statusHistory id) order.status
  backed : ∀ id order, ledger.order? id = some order → order.status ≠ .created →
    order.status ≠ .riskRejected → Backed ledger order
  fresh : ∀ id, ledger.order? id = none → ledger.statusHistory id = []

theorem SoundLedger.empty : SoundLedger OrderLedger.empty :=
  { path := fun _ _ found => nomatch found
    backed := fun _ _ found => nomatch found
    fresh := fun _ _ => rfl }

/-- Orders with a terminal status keep it. -/
def TerminalKept (ledger next : OrderLedger) : Prop :=
  ∀ id order, ledger.order? id = some order → isTerminal order.status = true →
    ∃ after, next.order? id = some after ∧ after.status = order.status

theorem TerminalKept.refl (ledger : OrderLedger) : TerminalKept ledger ledger :=
  fun _ order found _ => ⟨order, found, rfl⟩

theorem TerminalKept.trans {first middle last : OrderLedger}
    (earlier : TerminalKept first middle) (later : TerminalKept middle last) :
    TerminalKept first last := by
  intro id order found terminal
  obtain ⟨between, foundBetween, sameBetween⟩ := earlier id order found terminal
  rw [← sameBetween] at terminal ⊢
  exact later id between foundBetween terminal

/-! ### Updates from the broker -/

/-- One status change to a status that the broker reports. -/
inductive ReportedUpdate (ledger next : OrderLedger) : Prop where
  | intro (id : String) (order after : InternalOrder) (found : ledger.order? id = some order)
      (edge : Edge order.status after.status) (reported : after.status ∈ reportedStatuses)
      (decision : after.riskDecisionId = order.riskDecisionId)
      (changed : OrderLedger.Updated ledger id order after next)

theorem status_of_edge_to_reported {current reported : OrderStatus}
    (edge : Edge current reported) (listed : reported ∈ reportedStatuses) :
    current ≠ .created ∧ current ≠ .riskRejected ∧ reported ≠ .created ∧
      reported ≠ .riskRejected := by
  revert edge listed
  cases current <;> cases reported <;> decide

theorem ReportedUpdate.sound (update : ReportedUpdate ledger next) (sound : SoundLedger ledger) :
    SoundLedger next := by
  cases update with
  | intro id order after found edge reported decision changed =>
      obtain ⟨notCreated, notRejected, _, _⟩ := status_of_edge_to_reported edge reported
      constructor
      · intro other stored present
        rw [changed.order?] at present
        rw [changed.statusHistory]
        split_ifs at present with same
        · cases present
          rw [if_pos same, same]
          exact (sound.path id order found).recordStatus_edge edge
        · rw [if_neg same]
          exact sound.path other stored present
      · intro other stored present created rejected
        rw [changed.order?] at present
        unfold Backed
        rw [changed.riskDecisions]
        split_ifs at present with same
        · cases present
          rw [decision]
          exact sound.backed id order found notCreated notRejected
        · exact sound.backed other stored present created rejected
      · intro other absent
        rw [changed.order?] at absent
        rw [changed.statusHistory]
        split_ifs at absent with same
        rw [if_neg same]
        exact sound.fresh other absent

theorem ReportedUpdate.terminalKept (update : ReportedUpdate ledger next) :
    TerminalKept ledger next := by
  cases update with
  | intro id order after found edge reported decision changed =>
      intro other stored present terminal
      refine ⟨stored, ?_, rfl⟩
      rw [changed.order?, if_neg]
      · exact present
      · intro same
        subst same
        cases found.symm.trans present
        exact not_edge_of_isTerminal terminal _ edge

theorem updates_keep (updates : ReflTransGen ReportedUpdate ledger next)
    (sound : SoundLedger ledger) : SoundLedger next ∧ TerminalKept ledger next := by
  induction updates with
  | refl => exact ⟨sound, TerminalKept.refl _⟩
  | tail _ last ih => exact ⟨last.sound ih.1, ih.2.trans last.terminalKept⟩

theorem updateOrderStatus_reported (py : Python) (now : Datetime) (ledger : OrderLedger)
    (id : String) {status : OrderStatus} (reported : status ∈ reportedStatuses)
    (brokerOrderId : Option String) (raw : Option RawOrder) :
    (∃ after next, ledger.updateOrderStatus py now id status brokerOrderId raw =
        (.ok after, next) ∧ ReportedUpdate ledger next) ∨
      ∃ exception, ledger.updateOrderStatus py now id status brokerOrderId raw =
        (.error exception, ledger) := by
  rcases ledger.updateOrderStatus_cases py now id status brokerOrderId raw with
    ⟨order, found, edge, next, changed, result⟩ | ⟨exception, _, result⟩
  · left
    refine ⟨_, next, result, ReportedUpdate.intro id order
      (OrderLedger.updated order status now brokerOrderId raw) found edge reported rfl changed⟩
  · exact Or.inr ⟨exception, result⟩

/-! ### Reconciliation -/

theorem compareOrder_updates (py : Python) (clock : PassClock) {index : BrokerIndex}
    (reported : ∀ bid order, index.get? bid = some order → order.status ∈ reportedStatuses)
    (tally : Tally) (ledger : OrderLedger) (order : InternalOrder) :
    ReflTransGen ReportedUpdate ledger
      (compareOrder py clock index tally ledger order).2 := by
  unfold compareOrder
  split
  · exact .refl
  · split
    · exact .refl
    · rename_i brokerOrder found
      dsimp only
      split_ifs
      · exact .refl
      · rcases updateOrderStatus_reported py (clock.updatedAt order.internalOrderId) ledger
            order.internalOrderId (reported _ brokerOrder found) none
            brokerOrder.rawBrokerResponse with
          ⟨after, next, result, update⟩ | ⟨exception, result⟩
        · rw [result]
          exact .single update
        · rw [result]
          cases exception <;> exact .refl

theorem compareOrders_updates (py : Python) (clock : PassClock) {index : BrokerIndex}
    (reported : ∀ bid order, index.get? bid = some order → order.status ∈ reportedStatuses)
    (orders : List InternalOrder) (tally : Tally) (ledger : OrderLedger) :
    ReflTransGen ReportedUpdate ledger
      (compareOrders py clock index tally ledger orders).2 := by
  induction orders generalizing tally ledger with
  | nil => exact .refl
  | cons order rest ih =>
      have first := compareOrder_updates py clock reported tally ledger order
      unfold compareOrders
      cases result : compareOrder py clock index tally ledger order with
      | mk outcome between =>
          rw [result] at first
          cases outcome with
          | error exception => exact first
          | ok middle => exact first.trans (ih middle between)

theorem reconcile_updates (clock : PassClock) (orders : OrdersResponse)
    (positions : PositionsResponse) (ledger : OrderLedger) :
    ReflTransGen ReportedUpdate ledger (reconcile py clock orders positions ledger).2 := by
  have reported : ∀ bid order, (passIndex py clock (fetchBrokerOrders orders)).get? bid =
      some order → order.status ∈ reportedStatuses := by
    intro bid order found
    exact status_mem_of_mem_brokerOrders (mem_of_get?_brokerById found).1
  have updates := compareOrders_updates py clock reported ledger.listOrders
  unfold passIndex at updates
  unfold reconcile
  dsimp only
  split
  · rename_i result
    have left := congrArg Prod.snd result
    dsimp only at left ⊢
    rw [← left]
    exact updates _ ledger
  · rename_i result
    have left := congrArg Prod.snd result
    dsimp only at left ⊢
    rw [← left]
    exact updates _ ledger

/-! ### Creation -/

/-- What the creation of an order leaves behind. -/
structure Added (ledger : OrderLedger) (id : String) (order : InternalOrder)
    (next : OrderLedger) : Prop where
  order? : ∀ other, next.order? other = if other = id then some order else ledger.order? other
  riskDecisions : ∀ decision ∈ ledger.riskDecisions, decision ∈ next.riskDecisions
  frame : ∀ other, other ≠ id → next.statusHistory other = ledger.statusHistory other
  path : ledger.statusHistory id = [] → StatusPath (next.statusHistory id) order.status
  backed : order.status ≠ .created → order.status ≠ .riskRejected → Backed next order

theorem Added.sound {id : String} {order : InternalOrder} (added : Added ledger id order next)
    (absent : ledger.order? id = none) (sound : SoundLedger ledger) : SoundLedger next := by
  constructor
  · intro other stored present
    rw [added.order?] at present
    split_ifs at present with same
    · cases present
      rw [same]
      exact added.path (sound.fresh id absent)
    · rw [added.frame other same]
      exact sound.path other stored present
  · intro other stored present created rejected
    rw [added.order?] at present
    split_ifs at present with same
    · cases present
      exact added.backed created rejected
    · obtain ⟨decision, member, approved, carried⟩ :=
        sound.backed other stored present created rejected
      exact ⟨decision, added.riskDecisions decision member, approved, carried⟩
  · intro other missing
    rw [added.order?] at missing
    split_ifs at missing with same
    rw [added.frame other same]
    exact sound.fresh other missing

theorem Added.terminalKept {id : String} {order : InternalOrder}
    (added : Added ledger id order next) (absent : ledger.order? id = none) :
    TerminalKept ledger next := by
  intro other stored present _
  refine ⟨stored, ?_, rfl⟩
  rw [added.order?, if_neg]
  · exact present
  · intro same
    rw [same, absent] at present
    cases present

theorem added_addOrder (ledger : OrderLedger) {order : InternalOrder}
    (created : order.status = .created) :
    Added ledger order.internalOrderId order (ledger.addOrder order) := by
  constructor
  · exact OrderLedger.order?_addOrder ledger order
  · exact fun _ member => member
  · intro other different
    rw [OrderLedger.statusHistory_addOrder, if_neg different]
  · intro none
    rw [OrderLedger.statusHistory_addOrder, if_pos rfl, none, created]
    exact StatusPath.start
  · intro notCreated
    exact absurd created notCreated

theorem edge_checkedStatus (decision : RiskDecision) :
    Edge .created (OrderManager.checkedStatus decision) := by
  unfold OrderManager.checkedStatus
  split_ifs <;> decide

theorem storeChecked_spec (py : Python) (now : Datetime) (ledger : OrderLedger)
    {order : InternalOrder} (created : order.status = .created) (decision : RiskDecision) :
    ∃ stored after next, OrderManager.storeChecked py now ledger order decision =
      (.ok stored, next) ∧ Added ledger order.internalOrderId after next := by
  have found : ((ledger.addRiskDecision decision).addOrder order).order?
      order.internalOrderId = some order := by
    rw [OrderLedger.order?_addOrder, if_pos rfl]
  have edge : Edge order.status (OrderManager.checkedStatus decision) := by
    rw [created]
    exact edge_checkedStatus decision
  obtain ⟨between, changed, result⟩ :=
    OrderLedger.updateOrderStatus_of_edge py now found edge none none
  let after := OrderManager.withDecision
    (OrderLedger.updated order (OrderManager.checkedStatus decision) now none none) decision
  have ownId : after.internalOrderId = order.internalOrderId := rfl
  have history (other : String) : (between.addOrder after).statusHistory other =
      if other = order.internalOrderId then
        recordStatus (recordStatus (recordStatus (ledger.statusHistory other) order.status)
          after.status) after.status
      else ledger.statusHistory other := by
    rw [OrderLedger.statusHistory_addOrder, ownId, changed.statusHistory,
      OrderLedger.statusHistory_addOrder, OrderLedger.statusHistory_addRiskDecision]
    by_cases same : other = order.internalOrderId
    · simp only [if_pos same]
      rfl
    · simp only [if_neg same]
  refine ⟨_, after, between.addOrder after, by
    simp only [OrderManager.storeChecked, result]
    rfl, ?_⟩
  constructor
  · intro other
    rw [OrderLedger.order?_addOrder, ownId, changed.order?, OrderLedger.order?_addOrder]
    by_cases same : other = order.internalOrderId
    · rw [if_pos same, if_pos same]
    · simp only [if_neg same]
      rfl
  · intro earlier member
    show earlier ∈ between.riskDecisions
    rw [changed.riskDecisions]
    exact List.mem_append_left _ member
  · intro other different
    rw [history, if_neg different]
  · intro none
    rw [history, if_pos rfl, none, created]
    have checked := StatusPath.start.recordStatus_edge (edge_checkedStatus decision)
    rw [← checked.recordStatus_same] at checked
    exact checked
  · intro notCreated notRejected
    have approved : decision.approved = true := by
      by_contra rejected
      exact notRejected (if_neg rejected)
    refine ⟨decision, ?_, approved, rfl⟩
    show decision ∈ between.riskDecisions
    rw [changed.riskDecisions]
    exact List.mem_append_right _ (List.mem_singleton_self _)

theorem createOrderFromIntent_cases (py : Python) (now : Datetime)
    (check : Option (RiskCheck ρ)) (manager : OrderManager ρ) (id : String)
    (intent : OrderIntent) (snapshot : Option PortfolioSnapshot) (ts : Datetime) :
    (∃ stored order after, manager.createOrderFromIntent py now check id intent snapshot ts =
        (.ok stored, after) ∧ Added manager.ledger id order after.ledger) ∨
      ∃ exception after, manager.createOrderFromIntent py now check id intent snapshot ts =
        (.error exception, after) ∧ after.ledger = manager.ledger := by
  unfold OrderManager.createOrderFromIntent
  cases made : intentToInternalOrder py id intent ts with
  | error exception => exact Or.inr ⟨exception, manager, rfl, rfl⟩
  | ok order =>
      obtain ⟨rfl, created, _⟩ := intentToInternalOrder_fields made
      dsimp only
      split
      · rename_i engine given
        cases checked : engine manager.riskState intent given ts with
        | mk outcome riskState =>
            cases outcome with
            | error exception => exact Or.inr ⟨exception, _, rfl, rfl⟩
            | ok decision =>
                obtain ⟨stored, after, next, result, added⟩ :=
                  storeChecked_spec py now manager.ledger created decision
                refine Or.inl ⟨stored, after, { ledger := next, riskState := riskState }, ?_, added⟩
                simp only [result]
      · exact Or.inl ⟨_, order, _, rfl, added_addOrder manager.ledger created⟩

/-! ### Runs -/

inductive ManagerEvent where
  | createOrder (now : Datetime) (internalOrderId : String) (intent : OrderIntent)
      (snapshot : Option PortfolioSnapshot) (ts : Datetime)
  | markSubmitted (now : Datetime) (internalOrderId : String) (brokerOrderId : Option String)
      (raw : Option RawOrder)
  | markBrokerUpdate (now : Datetime) (internalOrderId : String) (brokerStatus : OrderStatus)
      (raw : Option RawOrder)
  | reconcile (clock : PassClock) (orders : OrdersResponse) (positions : PositionsResponse)

/-- One operation; only whether it raises is kept of its result. -/
def perform (py : Python) (check : Option (RiskCheck ρ)) (manager : OrderManager ρ) :
    ManagerEvent → Except EngineError Unit × OrderManager ρ
  | .createOrder now id intent snapshot ts =>
      let created := manager.createOrderFromIntent py now check id intent snapshot ts
      (created.1.map (fun _ => ()), created.2)
  | .markSubmitted now id brokerOrderId raw =>
      let marked := manager.markSubmitted py now id brokerOrderId raw
      (marked.1.map (fun _ => ()), marked.2)
  | .markBrokerUpdate now id brokerStatus raw =>
      let marked := manager.markBrokerUpdate py now id brokerStatus raw
      (marked.1.map (fun _ => ()), marked.2)
  | .reconcile clock orders positions =>
      let pass := Reconciliation.reconcile py clock orders positions manager.ledger
      (pass.1.map (fun _ => ()), { manager with ledger := pass.2 })

def managerStep (py : Python) (check : Option (RiskCheck ρ)) (manager : OrderManager ρ)
    (event : ManagerEvent) : OrderManager ρ :=
  (perform py check manager event).2

/-- Created orders have fresh ids, and broker updates come from the status mapper. -/
def ManagerAllowed (py : Python) (manager : OrderManager ρ) : ManagerEvent → Prop
  | .createOrder _ id _ _ _ => manager.ledger.order? id = none
  | .markBrokerUpdate _ _ brokerStatus _ => ∃ text, mapZerodhaOrderStatus py text = brokerStatus
  | _ => True

theorem update_keeps {manager : OrderManager ρ} (now : Datetime) (id : String)
    {status : OrderStatus} (reported : status ∈ reportedStatuses) (brokerOrderId : Option String)
    (raw : Option RawOrder) (sound : SoundLedger manager.ledger) :
    SoundLedger (manager.ledger.updateOrderStatus py now id status brokerOrderId raw).2 ∧
      TerminalKept manager.ledger
        (manager.ledger.updateOrderStatus py now id status brokerOrderId raw).2 := by
  rcases updateOrderStatus_reported py now manager.ledger id reported brokerOrderId raw with
    ⟨after, next, result, update⟩ | ⟨exception, result⟩
  · rw [result]
    exact ⟨update.sound sound, update.terminalKept⟩
  · rw [result]
    exact ⟨sound, TerminalKept.refl _⟩

theorem managerStep_keeps {check : Option (RiskCheck ρ)} {manager : OrderManager ρ}
    {event : ManagerEvent} (allowed : ManagerAllowed py manager event)
    (sound : SoundLedger manager.ledger) :
    SoundLedger (managerStep py check manager event).ledger ∧
      TerminalKept manager.ledger (managerStep py check manager event).ledger := by
  cases event with
  | createOrder now id intent snapshot ts =>
      unfold managerStep perform
      rcases createOrderFromIntent_cases py now check manager id intent snapshot ts with
        ⟨stored, order, after, result, added⟩ | ⟨exception, after, result, same⟩
      · simp only [result]
        exact ⟨added.sound allowed sound, added.terminalKept allowed⟩
      · simp only [result, same]
        exact ⟨sound, TerminalKept.refl _⟩
  | markSubmitted now id brokerOrderId raw =>
      exact update_keeps now id (by decide) brokerOrderId raw sound
  | markBrokerUpdate now id brokerStatus raw =>
      obtain ⟨text, rfl⟩ := allowed
      exact update_keeps now id (mapZerodhaOrderStatus_mem py text) none raw sound
  | reconcile clock orders positions =>
      exact updates_keep (reconcile_updates clock orders positions manager.ledger) sound

theorem perform_raised {check : Option (RiskCheck ρ)} {manager : OrderManager ρ}
    {event : ManagerEvent} {exception : EngineError}
    (raised : (perform py check manager event).1 = .error exception) :
    (perform py check manager event).2.ledger = manager.ledger := by
  have update (now : Datetime) (id : String) (status : OrderStatus)
      (brokerOrderId : Option String) (raw : Option RawOrder)
      (failed : (manager.ledger.updateOrderStatus py now id status brokerOrderId raw).1.map
        (fun _ => ()) = .error exception) :
      (manager.ledger.updateOrderStatus py now id status brokerOrderId raw).2 =
        manager.ledger := by
    rcases manager.ledger.updateOrderStatus_cases py now id status brokerOrderId raw with
      ⟨_, _, _, _, _, result⟩ | ⟨_, _, result⟩
    · rw [result] at failed
      cases failed
    · rw [result]
  cases event with
  | createOrder now id intent snapshot ts =>
      unfold perform at raised ⊢
      rcases createOrderFromIntent_cases py now check manager id intent snapshot ts with
        ⟨stored, order, after, result, added⟩ | ⟨_, after, result, same⟩
      · simp only [result] at raised
        cases raised
      · simp only [result]
        exact same
  | markSubmitted now id brokerOrderId raw => exact update now id _ brokerOrderId raw raised
  | markBrokerUpdate now id brokerStatus raw => exact update now id _ none raw raised
  | reconcile clock orders positions =>
      obtain ⟨report, next, result, _⟩ := reconcile_spec py clock orders positions manager.ledger
      simp only [perform, result] at raised
      cases raised

def newManager (riskState : ρ) : OrderManager ρ :=
  { ledger := OrderLedger.empty
    riskState := riskState }

/-- The statuses that need no approved risk decision. -/
def beforeSubmission : List OrderStatus :=
  [.created, .riskApproved, .riskRejected]

theorem run_keeps {check : Option (RiskCheck ρ)} {manager : OrderManager ρ}
    {events : List ManagerEvent}
    (admissible :
      EventRun.Admissible (managerStep py check) (ManagerAllowed py) manager events)
    (sound : SoundLedger manager.ledger) :
    SoundLedger (EventRun.run (managerStep py check) manager events).ledger ∧
      TerminalKept manager.ledger (EventRun.run (managerStep py check) manager events).ledger :=
  ⟨EventRun.run_invariant (fun manager => SoundLedger manager.ledger)
      (fun _ _ allowed holds => (managerStep_keeps allowed holds).1) admissible sound,
    EventRun.run_related (fun earlier later => TerminalKept earlier.ledger later.ledger)
      (fun manager => TerminalKept.refl manager.ledger)
      (fun _ _ _ => TerminalKept.trans)
      (fun manager => SoundLedger manager.ledger)
      (fun _ _ allowed holds => managerStep_keeps allowed holds) admissible sound⟩

theorem order_manager_runs (py : Python) (check : Option (RiskCheck ρ)) (riskState : ρ)
    (events : List ManagerEvent)
    (admissible : EventRun.Admissible (managerStep py check) (ManagerAllowed py)
      (newManager riskState) events) :
    let final := EventRun.run (managerStep py check) (newManager riskState) events
    (∀ order ∈ final.ledger.listOrders, order.status ∉ beforeSubmission →
        Backed final.ledger order) ∧
      (∀ order ∈ final.ledger.listOrders,
        StatusPath (final.ledger.statusHistory order.internalOrderId) order.status) ∧
      (∀ earlier later, events = earlier ++ later → ∀ order ∈
        (EventRun.run (managerStep py check) (newManager riskState) earlier).ledger.listOrders,
          isTerminal order.status = true → ∃ after,
            final.ledger.order? order.internalOrderId = some after ∧
              after.status = order.status) ∧
      ∀ event exception, (perform py check final event).1 = .error exception →
        (perform py check final event).2.ledger = final.ledger := by
  intro final
  obtain ⟨sound, _⟩ := run_keeps admissible SoundLedger.empty
  refine ⟨?_, ?_, ?_, fun event exception raised => perform_raised raised⟩
  · intro order member beyond
    apply sound.backed _ order (OrderLedger.mem_listOrders_iff.mp member)
    · intro created
      exact beyond (by rw [created]; decide)
    · intro rejected
      exact beyond (by rw [rejected]; decide)
  · intro order member
    exact sound.path _ order (OrderLedger.mem_listOrders_iff.mp member)
  · rintro earlier later rfl order member terminal
    obtain ⟨before, after⟩ := (EventRun.admissible_append _ _ _).mp admissible
    obtain ⟨soundEarlier, _⟩ := run_keeps before SoundLedger.empty
    have kept := (run_keeps after soundEarlier).2
    rw [← EventRun.run_append] at kept
    exact kept _ order (OrderLedger.mem_listOrders_iff.mp member) terminal

/-- A checked order that is submitted and filled. -/
def filledOrderEvents : List ManagerEvent :=
  [.createOrder 0 "ord_1" sampleIntent (some emptySnapshot) 0,
    .markSubmitted 1 "ord_1" (some "B1") none,
    .markBrokerUpdate 2 "ord_1" .filled none]

theorem filled_order_is_backed :
    ∃ order, (EventRun.run (managerStep Python.ascii (some approveAll)) (newManager ())
        filledOrderEvents).ledger.listOrders = [order] ∧ order.status = .filled ∧
      Backed (EventRun.run (managerStep Python.ascii (some approveAll)) (newManager ())
        filledOrderEvents).ledger order := by
  refine ⟨_, rfl, rfl, ?_⟩
  exact (order_manager_runs Python.ascii (some approveAll) () filledOrderEvents
    ⟨rfl, trivial, ⟨"COMPLETE", rfl⟩, trivial⟩).1 _ (List.mem_singleton_self _) (by decide)

end TradingEngine.Execution
