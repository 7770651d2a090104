/-
Loops over rounds that each handle a list of items.

A round opens with the items it hands out, handles them in order and closes.
Opening a round or handling an item can raise, and the loop then stops.  The trace
of a loop lists what it did up to there, each event with the state before it.
-/

import Mathlib.Data.List.Basic

/-- What opens a round, handles one of its items and closes it. -/
structure RoundLoop (ε σ β ι : Type) where
  enter : β → σ → Except ε (List ι × σ)
  item : β → ι → σ → Except ε σ
  leave : β → σ → σ

namespace RoundLoop

inductive Event (σ β ι : Type) where
  | entered (round : β) (state : σ)
  | handled (round : β) (item : ι) (state : σ)
  | left (round : β) (state : σ)

variable {ε σ τ β ι : Type}

def Event.state : Event σ β ι → σ
  | .entered _round state => state
  | .handled _round _item state => state
  | .left _round state => state

def Event.entered? : Event σ β ι → Option β
  | .entered round _state => some round
  | .handled _round _item _state => none
  | .left _round _state => none

def rounds (trace : List (Event σ β ι)) : List β :=
  trace.filterMap Event.entered?

theorem rounds_append (first second : List (Event σ β ι)) :
    rounds (first ++ second) = rounds first ++ rounds second :=
  List.filterMap_append

section Definitions

variable (loop : RoundLoop ε σ β ι)

def items (round : β) : List ι → σ → Except ε σ
  | [], state => .ok state
  | item :: rest, state =>
      match loop.item round item state with
      | .error raised => .error raised
      | .ok state => items round rest state

def step (round : β) (state : σ) : Except ε σ :=
  match loop.enter round state with
  | .error raised => .error raised
  | .ok (handed, state) =>
      match loop.items round handed state with
      | .error raised => .error raised
      | .ok state => .ok (loop.leave round state)

def run : List β → σ → Except ε σ
  | [], state => .ok state
  | round :: rest, state =>
      match loop.step round state with
      | .error raised => .error raised
      | .ok state => run rest state

def itemsTrace (round : β) : List ι → σ → List (Event σ β ι)
  | [], state => [.left round state]
  | item :: rest, state =>
      .handled round item state ::
        match loop.item round item state with
        | .error _raised => []
        | .ok state => itemsTrace round rest state

def stepTrace (round : β) (state : σ) : List (Event σ β ι) :=
  .entered round state ::
    match loop.enter round state with
    | .error _raised => []
    | .ok (handed, state) => loop.itemsTrace round handed state

def trace : List β → σ → List (Event σ β ι)
  | [], _state => []
  | round :: rest, state =>
      loop.stepTrace round state ++
        match loop.step round state with
        | .error _raised => []
        | .ok state => trace rest state

end Definitions

/-! ### What holds along a trace -/

/-- Every event of the trace has the property, given what happened before it. -/
def Along (Holds : List (Event σ β ι) → Event σ β ι → Prop) (past trace : List (Event σ β ι)) :
    Prop :=
  ∀ earlier event later, trace = earlier ++ event :: later → Holds (past ++ earlier) event

section Along

variable {Holds Other : List (Event σ β ι) → Event σ β ι → Prop} {past : List (Event σ β ι)}

theorem along_nil : Along Holds past [] := by
  intro earlier event later split
  exact absurd split.symm (List.append_ne_nil_of_right_ne_nil _ (List.cons_ne_nil _ _))

theorem along_cons_iff {event : Event σ β ι} {rest : List (Event σ β ι)} :
    Along Holds past (event :: rest) ↔ Holds past event ∧ Along Holds (past ++ [event]) rest := by
  constructor
  · intro along
    constructor
    · have shown := along [] event rest rfl
      rw [List.append_nil] at shown
      exact shown
    · intro earlier next later split
      have shown := along (event :: earlier) next later (by rw [split, List.cons_append])
      rw [List.append_assoc, List.singleton_append]
      exact shown
  · rintro ⟨head, tail⟩ earlier next later split
    cases earlier with
    | nil =>
        rw [List.nil_append] at split
        rw [← (List.cons.inj split).1, List.append_nil]
        exact head
    | cons first middle =>
        rw [List.cons_append] at split
        obtain ⟨same, others⟩ := List.cons.inj split
        have shown := tail middle next later others
        rw [List.append_assoc, List.singleton_append, same] at shown
        exact shown

theorem along_append_iff {first second : List (Event σ β ι)} :
    Along Holds past (first ++ second) ↔
      Along Holds past first ∧ Along Holds (past ++ first) second := by
  induction first generalizing past with
  | nil =>
      rw [List.nil_append, List.append_nil]
      exact ⟨fun along => ⟨along_nil, along⟩, And.right⟩
  | cons event rest ih =>
      rw [List.cons_append, along_cons_iff, along_cons_iff, ih, List.append_assoc,
        List.singleton_append, and_assoc]

theorem along_of_forall {Always : Event σ β ι → Prop} {trace : List (Event σ β ι)}
    (always : ∀ event ∈ trace, Always event) : Along (fun _past => Always) past trace := by
  intro earlier event later split
  apply always
  rw [split]
  exact List.mem_append_right earlier List.mem_cons_self

theorem Along.congr {Given : List (Event σ β ι) → Event σ β ι → Prop}
    {trace : List (Event σ β ι)} (given : Along Given past trace)
    (agree : ∀ past event, Given past event → (Holds past event ↔ Other past event)) :
    Along Holds past trace ↔ Along Other past trace := by
  constructor
  · intro along earlier event later split
    exact (agree _ event (given earlier event later split)).mp (along earlier event later split)
  · intro along earlier event later split
    exact (agree _ event (given earlier event later split)).mpr (along earlier event later split)

instance Along.decidable [decidable : ∀ past event, Decidable (Holds past event)] :
    (past trace : List (Event σ β ι)) → Decidable (Along Holds past trace)
  | _past, [] => isTrue along_nil
  | past, event :: rest =>
      have := Along.decidable (past ++ [event]) rest
      decidable_of_iff (Holds past event ∧ Along Holds (past ++ [event]) rest)
        along_cons_iff.symm

end Along

/-! ### Relabelled rounds -/

/-- The loop whose rounds are relabelled first. -/
def comap {γ : Type} (label : γ → β) (loop : RoundLoop ε σ β ι) : RoundLoop ε σ γ ι :=
  { enter := fun round => loop.enter (label round)
    item := fun round => loop.item (label round)
    leave := fun round => loop.leave (label round) }

theorem items_comap {γ : Type} (label : γ → β) (loop : RoundLoop ε σ β ι) (round : γ)
    (handed : List ι) (state : σ) :
    (loop.comap label).items round handed state = loop.items (label round) handed state := by
  induction handed generalizing state with
  | nil => rfl
  | cons item rest ih =>
      unfold items
      change (match loop.item (label round) item state with
        | .error raised => Except.error raised
        | .ok state => (loop.comap label).items round rest state) = _
      cases loop.item (label round) item state with
      | error raised => rfl
      | ok next => exact ih next

theorem run_comap {γ : Type} (label : γ → β) (loop : RoundLoop ε σ β ι) (rounds : List γ)
    (state : σ) : (loop.comap label).run rounds state = loop.run (rounds.map label) state := by
  have same : ∀ round state,
      (loop.comap label).step round state = loop.step (label round) state := by
    intro round state
    unfold step
    simp only [items_comap]
    rfl
  induction rounds generalizing state with
  | nil => rfl
  | cons round rest ih =>
      rw [List.map_cons]
      unfold run
      rw [same]
      cases loop.step (label round) state with
      | error raised => rfl
      | ok next => exact ih next

/-! ### Invariants -/

/-- Two properties of events that agree in every round, as long as an invariant holds that the
second one keeps, agree along a whole trace. -/
theorem forall_trace_iff {loop : RoundLoop ε σ β ι} {First Second : Event σ β ι → Prop}
    {Holds : σ → Prop}
    (agree : ∀ round state, Holds state →
      ((∀ event ∈ loop.stepTrace round state, First event) ↔
        ∀ event ∈ loop.stepTrace round state, Second event))
    (keeps : ∀ round state state', Holds state →
      (∀ event ∈ loop.stepTrace round state, Second event) →
      loop.step round state = .ok state' → Holds state')
    (rounds : List β) {state : σ} (initial : Holds state) :
    (∀ event ∈ loop.trace rounds state, First event) ↔
      ∀ event ∈ loop.trace rounds state, Second event := by
  induction rounds generalizing state with
  | nil => exact iff_of_true nofun nofun
  | cons round rest ih =>
      unfold trace
      rw [List.forall_mem_append, List.forall_mem_append, agree round state initial]
      apply and_congr_right
      intro second
      cases stepped : loop.step round state with
      | error raised => exact iff_of_true nofun nofun
      | ok next => exact ih (keeps round state next initial second stepped)

/-- A relation of what happened so far to the state that every event extends. -/
structure Keeps (loop : RoundLoop ε σ β ι) (Hist : List (Event σ β ι) → σ → Prop) : Prop where
  enter : ∀ past round state handed state', Hist past state →
    loop.enter round state = .ok (handed, state') → Hist (past ++ [.entered round state]) state'
  item : ∀ past round item state state', Hist past state →
    loop.item round item state = .ok state' → Hist (past ++ [.handled round item state]) state'
  leave : ∀ past round state, Hist past state →
    Hist (past ++ [.left round state]) (loop.leave round state)

section Keeps

variable {loop : RoundLoop ε σ β ι} {Hist : List (Event σ β ι) → σ → Prop}
  (keeps : loop.Keeps Hist)
include keeps

theorem Keeps.items (round : β) (handed : List ι) {past : List (Event σ β ι)} {state : σ}
    (initial : Hist past state) :
    Along (fun past event => Hist past event.state) past (loop.itemsTrace round handed state) ∧
      ∀ state', loop.items round handed state = .ok state' →
        Hist (past ++ loop.itemsTrace round handed state) (loop.leave round state') := by
  induction handed generalizing past state with
  | nil =>
      refine ⟨along_cons_iff.mpr ⟨initial, along_nil⟩, ?_⟩
      rintro state' ⟨⟩
      exact keeps.leave past round state initial
  | cons item rest ih =>
      unfold itemsTrace RoundLoop.items
      cases done : loop.item round item state with
      | error raised => exact ⟨along_cons_iff.mpr ⟨initial, along_nil⟩, nofun⟩
      | ok next =>
          obtain ⟨along, after⟩ := ih (keeps.item past round item state next initial done)
          refine ⟨along_cons_iff.mpr ⟨initial, along⟩, ?_⟩
          intro state' handled
          have shown := after state' handled
          rw [List.append_assoc, List.singleton_append] at shown
          exact shown

theorem Keeps.step (round : β) {past : List (Event σ β ι)} {state : σ} (initial : Hist past state) :
    Along (fun past event => Hist past event.state) past (loop.stepTrace round state) ∧
      ∀ state', loop.step round state = .ok state' →
        Hist (past ++ loop.stepTrace round state) state' := by
  unfold stepTrace RoundLoop.step
  cases entered : loop.enter round state with
  | error raised => exact ⟨along_cons_iff.mpr ⟨initial, along_nil⟩, nofun⟩
  | ok opened =>
      obtain ⟨handed, next⟩ := opened
      obtain ⟨along, after⟩ :=
        keeps.items round handed (keeps.enter past round state handed next initial entered)
      refine ⟨along_cons_iff.mpr ⟨initial, along⟩, ?_⟩
      intro state' stepped
      dsimp only at stepped ⊢
      cases done : loop.items round handed next with
      | error raised =>
          rw [done] at stepped
          cases stepped
      | ok last =>
          rw [done] at stepped
          cases stepped
          have shown := after last done
          rw [List.append_assoc, List.singleton_append] at shown
          exact shown

theorem Keeps.trace (rounds : List β) {past : List (Event σ β ι)} {state : σ}
    (initial : Hist past state) :
    Along (fun past event => Hist past event.state) past (loop.trace rounds state) ∧
      ∀ final, loop.run rounds state = .ok final →
        Hist (past ++ loop.trace rounds state) final := by
  induction rounds generalizing past state with
  | nil =>
      refine ⟨along_nil, ?_⟩
      rintro final ⟨⟩
      unfold RoundLoop.trace
      rw [List.append_nil]
      exact initial
  | cons round rest ih =>
      obtain ⟨along, after⟩ := keeps.step round initial
      unfold RoundLoop.trace RoundLoop.run
      cases stepped : loop.step round state with
      | error raised =>
          rw [List.append_nil]
          exact ⟨along, nofun⟩
      | ok next =>
          obtain ⟨restAlong, restAfter⟩ := ih (after next stepped)
          refine ⟨along_append_iff.mpr ⟨along, restAlong⟩, ?_⟩
          intro final ran
          have shown := restAfter final ran
          rw [List.append_assoc] at shown
          exact shown

end Keeps

/-! ### The rounds of a trace -/

theorem rounds_itemsTrace (loop : RoundLoop ε σ β ι) (round : β) (handed : List ι) (state : σ) :
    rounds (loop.itemsTrace round handed state) = [] := by
  induction handed generalizing state with
  | nil => rfl
  | cons item rest ih =>
      unfold itemsTrace
      change rounds (match loop.item round item state with
        | .error _raised => []
        | .ok state => loop.itemsTrace round rest state) = []
      cases loop.item round item state with
      | error raised => rfl
      | ok next => exact ih next

theorem rounds_trace_prefix (loop : RoundLoop ε σ β ι) (later : List β) (state : σ) :
    rounds (loop.trace later state) <+: later := by
  induction later generalizing state with
  | nil => exact List.nil_prefix
  | cons round rest ih =>
      have opened : rounds (loop.stepTrace round state) = [round] := by
        unfold stepTrace
        change round :: rounds (match loop.enter round state with
          | .error _raised => []
          | .ok (handed, state) => loop.itemsTrace round handed state) = [round]
        cases loop.enter round state with
        | error raised => rfl
        | ok answer => exact congrArg _ (loop.rounds_itemsTrace round answer.1 answer.2)
      unfold trace
      rw [rounds_append, opened, List.singleton_append, List.cons_prefix_cons]
      refine ⟨rfl, ?_⟩
      cases loop.step round state with
      | error raised => exact List.nil_prefix
      | ok next => exact ih next

theorem run_cons_eq_ok_iff {loop : RoundLoop ε σ β ι} {round : β} {rest : List β}
    {state final : σ} :
    loop.run (round :: rest) state = .ok final ↔
      ∃ next, loop.step round state = .ok next ∧ loop.run rest next = .ok final := by
  change (match loop.step round state with
    | .error raised => Except.error raised
    | .ok state => loop.run rest state) = .ok final ↔ _
  cases loop.step round state with
  | error raised =>
      constructor
      · intro ran
        cases ran
      · intro ⟨_, stepped, _⟩
        cases stepped
  | ok next =>
      constructor
      · exact fun ran => ⟨next, rfl, ran⟩
      · intro ⟨_, stepped, ran⟩
        cases stepped
        exact ran

theorem rounds_trace_of_ok {loop : RoundLoop ε σ β ι} {later : List β} {state final : σ}
    (ran : loop.run later state = .ok final) : rounds (loop.trace later state) = later := by
  induction later generalizing state with
  | nil => rfl
  | cons round rest ih =>
      obtain ⟨next, stepped, restRan⟩ := run_cons_eq_ok_iff.mp ran
      have opened : rounds (loop.stepTrace round state) = [round] := by
        unfold stepTrace
        change round :: rounds (match loop.enter round state with
          | .error _raised => []
          | .ok (handed, state) => loop.itemsTrace round handed state) = [round]
        cases loop.enter round state with
        | error raised => rfl
        | ok answer => exact congrArg _ (loop.rounds_itemsTrace round answer.1 answer.2)
      unfold trace
      rw [rounds_append, opened, stepped]
      exact congrArg (List.cons round) (ih restRan)

/-! ### Runs in two parts -/

theorem run_append_eq_ok_iff {loop : RoundLoop ε σ β ι} {first second : List β}
    {state final : σ} :
    loop.run (first ++ second) state = .ok final ↔
      ∃ middle, loop.run first state = .ok middle ∧ loop.run second middle = .ok final := by
  induction first generalizing state with
  | nil =>
      constructor
      · exact fun ran => ⟨state, rfl, ran⟩
      · intro ⟨_, same, ran⟩
        cases same
        exact ran
  | cons round rest ih =>
      rw [List.cons_append, run_cons_eq_ok_iff]
      constructor
      · intro ⟨next, stepped, ran⟩
        obtain ⟨middle, early, late⟩ := ih.mp ran
        exact ⟨middle, run_cons_eq_ok_iff.mpr ⟨next, stepped, early⟩, late⟩
      · intro ⟨middle, early, late⟩
        obtain ⟨next, stepped, ran⟩ := run_cons_eq_ok_iff.mp early
        exact ⟨next, stepped, ih.mpr ⟨middle, ran, late⟩⟩

theorem step_eq_ok {loop : RoundLoop ε σ β ι} {round : β} {state state' : σ}
    (stepped : loop.step round state = .ok state') :
    ∃ handed next last, loop.enter round state = .ok (handed, next) ∧
      loop.items round handed next = .ok last ∧ state' = loop.leave round last := by
  unfold step at stepped
  cases entered : loop.enter round state with
  | error raised =>
      rw [entered] at stepped
      cases stepped
  | ok opened =>
      obtain ⟨handed, next⟩ := opened
      rw [entered] at stepped
      dsimp only at stepped
      cases done : loop.items round handed next with
      | error raised =>
          rw [done] at stepped
          cases stepped
      | ok last =>
          rw [done] at stepped
          exact ⟨handed, next, last, rfl, done, (Except.ok.inj stepped).symm⟩

section Relations

variable {loop : RoundLoop ε σ β ι} {Rel : σ → σ → Prop} (refl : ∀ state, Rel state state)
  (trans : ∀ first second third, Rel first second → Rel second third → Rel first third)
include refl trans

theorem items_rel {round : β} {handed : List ι} {state state' : σ}
    (item : ∀ item state state', loop.item round item state = .ok state' → Rel state state')
    (handled : loop.items round handed state = .ok state') : Rel state state' := by
  induction handed generalizing state with
  | nil =>
      cases handled
      exact refl _
  | cons first rest ih =>
      unfold items at handled
      cases done : loop.item round first state with
      | error raised =>
          rw [done] at handled
          cases handled
      | ok next =>
          rw [done] at handled
          exact trans _ _ _ (item first state next done) (ih handled)

theorem step_rel {round : β} {state state' : σ}
    (enter : ∀ state handed state', loop.enter round state = .ok (handed, state') →
      Rel state state')
    (item : ∀ item state state', loop.item round item state = .ok state' → Rel state state')
    (leave : ∀ state, Rel state (loop.leave round state))
    (stepped : loop.step round state = .ok state') : Rel state state' := by
  obtain ⟨handed, next, last, entered, done, rfl⟩ := step_eq_ok stepped
  exact trans _ _ _ (enter state handed next entered)
    (trans _ _ _ (items_rel refl trans item done) (leave last))

theorem run_rel {rounds : List β} {state final : σ}
    (step : ∀ round ∈ rounds, ∀ state state', loop.step round state = .ok state' →
      Rel state state')
    (ran : loop.run rounds state = .ok final) : Rel state final := by
  induction rounds generalizing state with
  | nil =>
      cases ran
      exact refl _
  | cons round rest ih =>
      obtain ⟨next, stepped, restRan⟩ := run_cons_eq_ok_iff.mp ran
      exact trans _ _ _ (step round List.mem_cons_self state next stepped)
        (ih (fun other member => step other (List.mem_cons_of_mem round member)) restRan)

end Relations

/-! ### The open round -/

/-- What happens in a round happens after it was opened, and before the next one is. -/
def Event.InLast (opened : List β) : Event σ β ι → Prop
  | .entered _round _state => True
  | .handled round _item _state => opened.getLast? = some round
  | .left round _state => opened.getLast? = some round

section InLast

variable (loop : RoundLoop ε σ β ι)

theorem itemsTrace_inLast (round : β) (handed : List ι) {past : List (Event σ β ι)} (state : σ)
    (opened : (rounds past).getLast? = some round) :
    Along (fun past event => event.InLast (rounds past)) past
      (loop.itemsTrace round handed state) := by
  induction handed generalizing past state with
  | nil => exact along_cons_iff.mpr ⟨opened, along_nil⟩
  | cons item rest ih =>
      unfold itemsTrace
      refine along_cons_iff.mpr ⟨opened, ?_⟩
      cases loop.item round item state with
      | error raised => exact along_nil
      | ok next =>
          apply ih next
          rw [rounds_append]
          exact (congrArg List.getLast? (List.append_nil _)).trans opened

theorem trace_inLast (later : List β) (past : List (Event σ β ι)) (state : σ) :
    Along (fun past event => event.InLast (rounds past)) past (loop.trace later state) := by
  induction later generalizing past state with
  | nil => exact along_nil
  | cons round rest ih =>
      unfold trace
      refine along_append_iff.mpr ⟨?_, ?_⟩
      · unfold stepTrace
        refine along_cons_iff.mpr ⟨trivial, ?_⟩
        cases loop.enter round state with
        | error raised => exact along_nil
        | ok opened =>
            apply loop.itemsTrace_inLast
            rw [rounds_append]
            exact List.getLast?_concat
      · cases loop.step round state with
        | error raised => exact along_nil
        | ok next => exact ih _ next

end InLast

/-! ### Two loops over the same rounds -/

/-- Both sides raise the same or return related values. -/
def Agree {α γ : Type} (Related : α → γ → Prop) : Except ε α → Except ε γ → Prop
  | .ok left, .ok right => Related left right
  | .error left, .error right => left = right
  | _, _ => False

theorem Agree.cases {α γ : Type} {Related : α → γ → Prop} {left : Except ε α}
    {right : Except ε γ} (agree : Agree Related left right) :
    (∃ raised, left = .error raised ∧ right = .error raised) ∨
      ∃ mine theirs, left = .ok mine ∧ right = .ok theirs ∧ Related mine theirs := by
  cases left with
  | error raised =>
      cases right with
      | error raised' => exact .inl ⟨raised, rfl, congrArg Except.error (Eq.symm agree)⟩
      | ok theirs => exact agree.elim
  | ok mine =>
      cases right with
      | error raised' => exact agree.elim
      | ok theirs => exact .inr ⟨mine, theirs, rfl, rfl, agree⟩

theorem Agree.map_eq {α γ δ : Type} {Related : α → γ → Prop} {mine : α → δ} {theirs : γ → δ}
    (same : ∀ left right, Related left right → mine left = theirs right) {left : Except ε α}
    {right : Except ε γ} (agree : Agree Related left right) : left.map mine = right.map theirs := by
  rcases agree.cases with ⟨raised, rfl, rfl⟩ | ⟨value, other, rfl, rfl, related⟩
  · rfl
  · exact congrArg Except.ok (same value other related)

/-- The right loop follows the left one through events that are allowed. -/
structure Simulates (left : RoundLoop ε σ β ι) (right : RoundLoop ε τ β ι)
    (Allowed : List (Event σ β ι) → Event σ β ι → Prop)
    (Related : List (Event σ β ι) → σ → τ → Prop) : Prop where
  enter : ∀ past round state other, Allowed past (.entered round state) →
    Related past state other →
    Agree (fun opened shadow => opened.1 = shadow.1 ∧
      Related (past ++ [.entered round state]) opened.2 shadow.2)
      (left.enter round state) (right.enter round other)
  item : ∀ past round item state other, Allowed past (.handled round item state) →
    Related past state other →
    Agree (Related (past ++ [.handled round item state]))
      (left.item round item state) (right.item round item other)
  leave : ∀ past round state other, Related past state other →
    Related (past ++ [.left round state]) (left.leave round state) (right.leave round other)

section Simulates

variable {left : RoundLoop ε σ β ι} {right : RoundLoop ε τ β ι}
  {Allowed : List (Event σ β ι) → Event σ β ι → Prop}
  {Related : List (Event σ β ι) → σ → τ → Prop}
  (simulates : Simulates left right Allowed Related)
include simulates

theorem Simulates.items {past : List (Event σ β ι)} {round : β} {handed : List ι} {state : σ}
    {other : τ} (allowed : Along Allowed past (left.itemsTrace round handed state))
    (related : Related past state other) :
    Agree (fun final shadow => Related (past ++ left.itemsTrace round handed state)
        (left.leave round final) (right.leave round shadow))
      (left.items round handed state) (right.items round handed other) := by
  induction handed generalizing past state other with
  | nil => exact simulates.leave past round state other related
  | cons item rest ih =>
      unfold itemsTrace at allowed ⊢
      unfold RoundLoop.items
      rcases (simulates.item past round item state other
          (along_cons_iff.mp allowed).1 related).cases with
        ⟨raised, mine, theirs⟩ | ⟨next, next', mine, theirs, followed⟩
      · rw [mine, theirs]
        exact rfl
      · rw [mine] at allowed ⊢
        rw [theirs]
        have shown := ih (along_cons_iff.mp allowed).2 followed
        rw [List.append_assoc, List.singleton_append] at shown
        exact shown

theorem Simulates.step {past : List (Event σ β ι)} {round : β} {state : σ} {other : τ}
    (allowed : Along Allowed past (left.stepTrace round state))
    (related : Related past state other) :
    Agree (Related (past ++ left.stepTrace round state)) (left.step round state)
      (right.step round other) := by
  unfold stepTrace at allowed ⊢
  unfold RoundLoop.step
  rcases (simulates.enter past round state other (along_cons_iff.mp allowed).1 related).cases with
    ⟨raised, mine, theirs⟩ | ⟨⟨handed, next⟩, ⟨handed', next'⟩, mine, theirs, same, followed⟩
  · rw [mine, theirs]
    exact rfl
  · dsimp only at same followed
    subst same
    rw [mine] at allowed ⊢
    rw [theirs]
    have shown := simulates.items (along_cons_iff.mp allowed).2 followed
    rw [List.append_assoc, List.singleton_append] at shown
    dsimp only
    rcases shown.cases with
      ⟨raised, mineDone, theirsDone⟩ | ⟨last, last', mineDone, theirsDone, after⟩
    · rw [mineDone, theirsDone]
      exact rfl
    · rw [mineDone, theirsDone]
      exact after

theorem Simulates.run {past : List (Event σ β ι)} {rounds : List β} {state : σ} {other : τ}
    (allowed : Along Allowed past (left.trace rounds state))
    (related : Related past state other) :
    Agree (Related (past ++ left.trace rounds state)) (left.run rounds state)
      (right.run rounds other) := by
  induction rounds generalizing past state other with
  | nil =>
      unfold RoundLoop.trace
      rw [List.append_nil]
      exact related
  | cons round rest ih =>
      unfold RoundLoop.trace at allowed ⊢
      unfold RoundLoop.run
      rcases (simulates.step (along_append_iff.mp allowed).1 related).cases with
        ⟨raised, mine, theirs⟩ | ⟨next, next', mine, theirs, followed⟩
      · rw [mine, theirs]
        exact rfl
      · rw [mine] at allowed ⊢
        rw [theirs]
        have shown := ih (along_append_iff.mp allowed).2 followed
        rw [List.append_assoc] at shown
        exact shown

end Simulates

theorem Simulates.agree {left : RoundLoop ε σ β ι} {right : RoundLoop ε τ β ι}
    {Related : σ → τ → Prop}
    (simulates : Simulates left right (fun _past _event => True) (fun _past => Related))
    (rounds : List β) {state : σ} {other : τ} (related : Related state other) :
    Agree Related (left.run rounds state) (right.run rounds other) :=
  have allowed : Along (fun _past _event => True) [] (left.trace rounds state) :=
    fun _earlier _event _later _split => trivial
  simulates.run allowed related

end RoundLoop
