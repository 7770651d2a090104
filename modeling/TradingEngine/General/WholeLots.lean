/-
Closing lots whole.

Every sell closes the oldest open lot of its key, whatever the two quantities are.  No event is
lost, but what a sell and its lot differ by is nowhere carried on.
-/

import Mathlib.Tactic.Abel
import TradingEngine.General.FifoLots

namespace FifoLots

open EventRun

/-- The open lots, the lots that were closed with the sells that closed them, and the sells that
found no open lot. -/
structure Closings (ε : Type) where
  opened : List ε
  closed : List (ε × ε)
  unmatched : List ε

/-- The sum of a value over all events of the closings. -/
def Closings.total {ε M : Type} [AddCommMonoid M] (closings : Closings ε)
    (value : ε → M) : M :=
  (closings.opened.map value).sum +
    (closings.closed.map (fun pair => value pair.1 + value pair.2)).sum +
    (closings.unmatched.map value).sum

namespace Moves

variable {ε κ M : Type} [DecidableEq κ] (moves : Moves ε κ M)

/-- A sell closes the oldest open lot of its key, whatever the quantities are. -/
def closeNext (closings : Closings ε) (event : ε) : Closings ε :=
  if moves.sells event then
    (closings.opened.find? (fun lot => moves.key lot = moves.key event)).elim
      { closings with unmatched := closings.unmatched ++ [event] }
      (fun lot =>
        { closings with
          opened := closings.opened.eraseP (fun lot => moves.key lot = moves.key event)
          closed := closings.closed ++ [(lot, event)] })
  else { closings with opened := closings.opened ++ [event] }

def closings (events : List ε) : Closings ε :=
  run moves.closeNext { opened := [], closed := [], unmatched := [] } events

variable {moves} {event lot : ε} {opened : List ε} {closings : Closings ε}

theorem oldest_split
    (found : opened.find? (fun lot => moves.key lot = moves.key event) = some lot) :
    ∃ before after, opened = before ++ lot :: after ∧
      opened.eraseP (fun lot => moves.key lot = moves.key event) = before ++ after ∧
      (∀ other ∈ before, moves.key other ≠ moves.key event) ∧
      moves.key lot = moves.key event := by
  obtain ⟨own, before, after, rfl, others⟩ := List.find?_eq_some_iff_append.mp found
  have apart : ∀ other ∈ before, moves.key other ≠ moves.key event := by
    intro other member
    simpa using others other member
  refine ⟨before, after, rfl, ?_, apart, of_decide_eq_true own⟩
  have removed : (lot :: after).eraseP (fun lot => moves.key lot = moves.key event) = after :=
    List.eraseP_cons_of_pos own
  rw [List.eraseP_append_right _ (by simpa using apart), removed]

theorem filter_oldest
    (found : opened.find? (fun lot => moves.key lot = moves.key event) = some lot) :
    opened.filter (fun lot => moves.key lot = moves.key event) =
      lot :: (opened.eraseP (fun lot => moves.key lot = moves.key event)).filter
        (fun lot => moves.key lot = moves.key event) := by
  obtain ⟨before, after, split, erased, apart, own⟩ := oldest_split found
  have none_before : before.filter (fun lot => moves.key lot = moves.key event) = [] :=
    List.filter_eq_nil_iff.mpr fun other member same =>
      apart other member (of_decide_eq_true same)
  have own_first : (lot :: after).filter (fun lot => moves.key lot = moves.key event) =
      lot :: after.filter (fun lot => moves.key lot = moves.key event) :=
    List.filter_cons_of_pos (decide_eq_true own)
  rw [erased, split, List.filter_append, List.filter_append, none_before, List.nil_append,
    List.nil_append, own_first]

theorem filter_erase_of_ne {key : κ} (other : moves.key event ≠ key)
    (found : opened.find? (fun lot => moves.key lot = moves.key event) = some lot) :
    (opened.eraseP (fun lot => moves.key lot = moves.key event)).filter
        (fun lot => moves.key lot = key) =
      opened.filter (fun lot => moves.key lot = key) := by
  obtain ⟨before, after, split, erased, _apart, own⟩ := oldest_split found
  have skipped : (lot :: after).filter (fun lot => moves.key lot = key) =
      after.filter (fun lot => moves.key lot = key) :=
    List.filter_cons_of_neg (by simpa [own] using other)
  rw [erased, split, List.filter_append, List.filter_append, skipped]

theorem total_closeNext {N : Type} [AddCommMonoid N] (closings : Closings ε) (event : ε)
    (value : ε → N) :
    (moves.closeNext closings event).total value = closings.total value + value event := by
  unfold closeNext
  split_ifs with selling
  · cases found : closings.opened.find? (fun lot => moves.key lot = moves.key event) with
    | none =>
        simp only [Option.elim, Closings.total, List.map_append, List.sum_append,
          List.map_singleton, List.sum_singleton]
        abel
    | some lot =>
        obtain ⟨before, after, split, erased, _apart, _own⟩ := oldest_split found
        simp only [Option.elim, Closings.total, erased]
        rw [split]
        simp only [List.map_append, List.sum_append, List.map_cons, List.sum_cons,
          List.map_nil, List.sum_nil]
        abel
  · simp only [Closings.total, List.map_append, List.sum_append, List.map_singleton,
      List.sum_singleton]
    abel

theorem total_closings {N : Type} [AddCommMonoid N] (moves : Moves ε κ M) (events : List ε)
    (value : ε → N) :
    (moves.closings events).total value = (events.map value).sum := by
  have steps (closings : Closings ε) : (run moves.closeNext closings events).total value =
      closings.total value + (events.map value).sum := by
    induction events generalizing closings with
    | nil => simp
    | cons event rest ih =>
        rw [run_cons, ih, total_closeNext, List.map_cons, List.sum_cons, add_assoc]
  rw [Moves.closings, steps]
  simp [Closings.total]

/-- Open lots are buys, and sells close them. -/
structure Sided (moves : Moves ε κ M) (closings : Closings ε) : Prop where
  opened : ∀ lot ∈ closings.opened, moves.sells lot = false
  closed : ∀ pair ∈ closings.closed, moves.sells pair.1 = false ∧ moves.sells pair.2 = true
  unmatched : ∀ event ∈ closings.unmatched, moves.sells event = true

theorem sided_closeNext (sided : moves.Sided closings) (event : ε) :
    moves.Sided (moves.closeNext closings event) := by
  unfold closeNext
  split_ifs with selling
  · cases found : closings.opened.find? (fun lot => moves.key lot = moves.key event) with
    | none =>
        exact
          { opened := sided.opened
            closed := sided.closed
            unmatched := by
              intro other member
              rcases List.mem_append.mp member with earlier | now
              · exact sided.unmatched other earlier
              · rw [List.mem_singleton.mp now, selling] }
    | some lot =>
        exact
          { opened := fun other member =>
              sided.opened other (List.mem_of_mem_eraseP member)
            closed := by
              intro pair member
              rcases List.mem_append.mp member with earlier | now
              · exact sided.closed pair earlier
              · rw [List.mem_singleton.mp now]
                exact ⟨sided.opened lot (List.mem_of_find?_eq_some found), selling⟩
            unmatched := sided.unmatched }
  · exact
      { opened := by
          intro other member
          rcases List.mem_append.mp member with earlier | now
          · exact sided.opened other earlier
          · rw [List.mem_singleton.mp now]
            exact Bool.eq_false_of_not_eq_true selling
        closed := sided.closed
        unmatched := sided.unmatched }

theorem sided_closings (moves : Moves ε κ M) (events : List ε) :
    moves.Sided (moves.closings events) :=
  run_invariant moves.Sided (fun _closings event _allowed sided => sided_closeNext sided event)
    (admissible_of_forall (fun _closings _event => trivial) _ events)
    { opened := nofun, closed := nofun, unmatched := nofun }

/-! ### Lots that are sold whole -/

/-- The open lots and the later buys of every key have, in order, the quantities of its later
sells. -/
def Alike (moves : Moves ε κ M) (opened events : List ε) : Prop :=
  ∀ key, (moves.sellsOf events key).map moves.quantity =
    (opened.filter (fun lot => moves.key lot = key) ++ moves.buysOf events key).map moves.quantity

/-- Everything is closed, and at its own quantity. -/
structure Exact (moves : Moves ε κ M) (closings : Closings ε) : Prop where
  opened : closings.opened = []
  unmatched : closings.unmatched = []
  closed : ∀ pair ∈ closings.closed, moves.quantity pair.2 = moves.quantity pair.1

variable {events rest : List ε}

theorem alike_nil_of_nil : moves.Alike [] [] :=
  fun _key => rfl

theorem alike_cons_of_buy (buying : moves.sells event = false) :
    moves.Alike opened (event :: rest) ↔ moves.Alike (opened ++ [event]) rest := by
  refine forall_congr' fun key => ?_
  by_cases same : moves.key event = key
  · simp [sellsOf, buysOf, buying, same, List.filter_append]
  · simp [sellsOf, buysOf, buying, same, List.filter_append]

theorem alike_cons_of_sell (selling : moves.sells event = true)
    (found : opened.find? (fun lot => moves.key lot = moves.key event) = some lot) :
    moves.Alike opened (event :: rest) ↔
      moves.quantity event = moves.quantity lot ∧
        moves.Alike (opened.eraseP (fun lot => moves.key lot = moves.key event)) rest := by
  have others {key : κ} (other : moves.key event ≠ key) :=
    filter_erase_of_ne other found
  have own := filter_oldest found
  constructor
  · intro alike
    have here := alike (moves.key event)
    rw [own] at here
    simp only [sellsOf, buysOf, selling, and_self, decide_true, List.filter_cons_of_pos,
      List.map_cons, List.cons_append, Bool.true_eq_false, and_false, decide_false,
      Bool.false_eq_true, not_false_eq_true, List.filter_cons_of_neg] at here
    obtain ⟨same, later⟩ := List.cons.inj here
    refine ⟨same, fun key => ?_⟩
    by_cases this : moves.key event = key
    · rw [← this]
      exact later
    · have there := alike key
      rw [others this]
      simpa [sellsOf, buysOf, this] using there
  · rintro ⟨same, alike⟩ key
    have there := alike key
    by_cases this : moves.key event = key
    · subst this
      rw [own]
      simpa [sellsOf, buysOf, selling, same] using there
    · rw [others this] at there
      simpa [sellsOf, buysOf, this] using there

def held (moves : Moves ε κ M) (opened : List ε) (key : κ) : ℕ :=
  ((opened.filter (fun lot => moves.key lot = key)).map moves.quantity).sum

theorem held_buy (buying : moves.sells event = false) :
    moves.hold (moves.held opened) event = moves.held (opened ++ [event]) := by
  funext key
  by_cases same : moves.key event = key
  · subst same
    simp [hold_of_buy buying, held, List.filter_append]
  · simp [hold_of_ne same, held, List.filter_append, same]

theorem held_sell (selling : moves.sells event = true)
    (found : opened.find? (fun lot => moves.key lot = moves.key event) = some lot)
    (whole : moves.quantity event = moves.quantity lot) :
    moves.hold (moves.held opened) event =
      moves.held (opened.eraseP (fun lot => moves.key lot = moves.key event)) := by
  funext key
  by_cases same : moves.key event = key
  · subst same
    rw [hold_of_sell selling, held, filter_oldest found, List.map_cons, List.sum_cons, whole,
      Nat.add_sub_cancel_left]
    rfl
  · rw [hold_of_ne same, held, held, filter_erase_of_ne same found]

theorem exists_lot_of_covered (selling : moves.sells event = true)
    (positive : 0 < moves.quantity event) (covered : moves.Covered (moves.held opened) event) :
    ∃ lot, opened.find? (fun lot => moves.key lot = moves.key event) = some lot := by
  rw [← Option.ne_none_iff_exists']
  intro nothing
  have empty : opened.filter (fun lot => moves.key lot = moves.key event) = [] :=
    List.filter_eq_nil_iff.mpr (List.find?_eq_none.mp nothing)
  have enough := covered selling
  rw [held, empty] at enough
  exact absurd positive (Nat.not_lt.mpr enough)

theorem closeNext_of_buy (buying : moves.sells event = false) :
    moves.closeNext closings event = { closings with opened := closings.opened ++ [event] } := by
  unfold closeNext
  rw [buying]
  rfl

theorem closeNext_of_lot (selling : moves.sells event = true)
    (found : closings.opened.find? (fun lot => moves.key lot = moves.key event) = some lot) :
    moves.closeNext closings event =
      { closings with
        opened := closings.opened.eraseP (fun lot => moves.key lot = moves.key event)
        closed := closings.closed ++ [(lot, event)] } := by
  unfold closeNext
  rw [if_pos selling, found]
  rfl

theorem closeNext_of_none (selling : moves.sells event = true)
    (nothing : closings.opened.find? (fun lot => moves.key lot = moves.key event) = none) :
    moves.closeNext closings event =
      { closings with unmatched := closings.unmatched ++ [event] } := by
  unfold closeNext
  rw [if_pos selling, nothing]
  rfl

/-- By induction on the events: a sell meets the lot of its own quantity. -/
theorem exact_run_of_alike (positive : ∀ event ∈ events, 0 < moves.quantity event)
    (covered : moves.NeverOversells (moves.held closings.opened) events)
    (alike : moves.Alike closings.opened events) (unmatched : closings.unmatched = [])
    (closed : ∀ pair ∈ closings.closed, moves.quantity pair.2 = moves.quantity pair.1) :
    moves.Exact (run moves.closeNext closings events) := by
  induction events generalizing closings with
  | nil =>
      refine { opened := ?_, unmatched := unmatched, closed := closed }
      apply List.eq_nil_iff_forall_not_mem.mpr
      intro lot member
      have none_ := List.map_eq_nil_iff.mp (alike (moves.key lot)).symm
      have own := List.append_eq_nil_iff.mp none_
      exact List.filter_eq_nil_iff.mp own.1 lot member (decide_eq_true rfl)
  | cons event rest ih =>
      obtain ⟨allowed, later⟩ := covered
      have positiveRest : ∀ event ∈ rest, 0 < moves.quantity event :=
        fun other member => positive other (List.mem_cons_of_mem _ member)
      rw [run_cons]
      cases kind : moves.sells event with
      | false =>
          rw [held_buy kind] at later
          rw [closeNext_of_buy kind]
          exact ih positiveRest later ((alike_cons_of_buy kind).mp alike) unmatched closed
      | true =>
          obtain ⟨lot, found⟩ :=
            exists_lot_of_covered kind (positive event List.mem_cons_self) allowed
          obtain ⟨whole, alikeRest⟩ := (alike_cons_of_sell kind found).mp alike
          rw [held_sell kind found whole] at later
          rw [closeNext_of_lot kind found]
          refine ih positiveRest later alikeRest unmatched ?_
          intro pair member
          rcases List.mem_append.mp member with earlier | now
          · exact closed pair earlier
          · rw [List.mem_singleton.mp now]
            exact whole

theorem closings_prefix (moves : Moves ε κ M) (closings : Closings ε) (events : List ε) :
    closings.closed <+: (run moves.closeNext closings events).closed ∧
      closings.unmatched <+: (run moves.closeNext closings events).unmatched := by
  induction events generalizing closings with
  | nil => exact ⟨List.prefix_refl _, List.prefix_refl _⟩
  | cons event rest ih =>
      obtain ⟨closed, unmatched⟩ := ih (moves.closeNext closings event)
      rw [run_cons]
      cases kind : moves.sells event with
      | false =>
          rw [closeNext_of_buy kind] at closed unmatched ⊢
          exact ⟨closed, unmatched⟩
      | true =>
          cases found : closings.opened.find?
              (fun lot => moves.key lot = moves.key event) with
          | none =>
              rw [closeNext_of_none kind found] at closed unmatched ⊢
              exact ⟨closed, (List.prefix_append _ _).trans unmatched⟩
          | some lot =>
              rw [closeNext_of_lot kind found] at closed unmatched ⊢
              exact ⟨(List.prefix_append _ _).trans closed, unmatched⟩

theorem alike_of_exact_run (exactly : moves.Exact (run moves.closeNext closings events)) :
    moves.Alike closings.opened events := by
  induction events generalizing closings with
  | nil =>
      have nothing : closings.opened = [] := exactly.opened
      rw [nothing]
      exact alike_nil_of_nil
  | cons event rest ih =>
      rw [run_cons] at exactly
      have later := ih exactly
      obtain ⟨closed, unmatched⟩ :=
        closings_prefix moves (moves.closeNext closings event) rest
      cases kind : moves.sells event with
      | false =>
          rw [closeNext_of_buy kind] at later
          exact (alike_cons_of_buy kind).mpr later
      | true =>
          cases found : closings.opened.find?
              (fun lot => moves.key lot = moves.key event) with
          | none =>
              rw [closeNext_of_none kind found] at unmatched exactly
              rw [exactly.unmatched, List.prefix_nil] at unmatched
              exact absurd unmatched (List.append_ne_nil_of_right_ne_nil _ (List.cons_ne_nil _ _))
          | some lot =>
              rw [closeNext_of_lot kind found] at closed later exactly
              have member := closed.subset (List.mem_append_right _ List.mem_cons_self)
              exact (alike_cons_of_sell kind found).mpr
                ⟨exactly.closed (lot, event) member, later⟩

/-- Whole lots close exactly when the sells of every key have, in order, the quantities of its
buys. -/
theorem exact_closings_iff (positive : ∀ event ∈ events, 0 < moves.quantity event)
    (covered : moves.NeverOversells (fun _ => 0) events) :
    moves.Exact (moves.closings events) ↔
      ∀ key, (moves.sellsOf events key).map moves.quantity =
        (moves.buysOf events key).map moves.quantity :=
  ⟨fun exactly => alike_of_exact_run exactly,
    fun alike => exact_run_of_alike positive covered alike rfl nofun⟩

/-! ### Reading events off others -/

/-- Events that are read off others with their key, side and quantity. -/
structure Reads {τ N : Type} (moves : Moves ε κ M) (source : Moves τ κ N) (read : τ → ε) :
    Prop where
  key : ∀ event, moves.key (read event) = source.key event
  sells : ∀ event, moves.sells (read event) = source.sells event
  quantity : ∀ event, moves.quantity (read event) = source.quantity event

section Reads

variable {τ N : Type} {source : Moves τ κ N} {read : τ → ε}

def mapClosings (read : τ → ε) (closings : Closings τ) : Closings ε :=
  { opened := closings.opened.map read
    closed := closings.closed.map (fun pair => (read pair.1, read pair.2))
    unmatched := closings.unmatched.map read }

theorem Reads.closeNext (reads : moves.Reads source read) (closings : Closings τ) (event : τ) :
    moves.closeNext (mapClosings read closings) (read event) =
      mapClosings read (source.closeNext closings event) := by
  have own : (fun lot => decide (moves.key lot = moves.key (read event))) ∘ read =
      fun lot => decide (source.key lot = source.key event) := by
    funext lot
    simp only [Function.comp_apply, reads.key]
  cases kind : source.sells event with
  | false =>
      rw [closeNext_of_buy kind, closeNext_of_buy ((reads.sells event).trans kind)]
      simp [mapClosings]
  | true =>
      have selling := (reads.sells event).trans kind
      cases found : closings.opened.find? (fun lot => source.key lot = source.key event) with
      | none =>
          have nothing : (mapClosings read closings).opened.find?
              (fun lot => moves.key lot = moves.key (read event)) = none := by
            change (closings.opened.map read).find? _ = none
            rw [List.find?_map, own, found]
            rfl
          rw [closeNext_of_none kind found, closeNext_of_none selling nothing]
          simp [mapClosings]
      | some lot =>
          have same : (mapClosings read closings).opened.find?
              (fun lot => moves.key lot = moves.key (read event)) = some (read lot) := by
            change (closings.opened.map read).find? _ = some (read lot)
            rw [List.find?_map, own, found]
            rfl
          rw [closeNext_of_lot kind found, closeNext_of_lot selling same]
          simp [mapClosings, List.eraseP_map, own]

theorem Reads.closings_map (reads : moves.Reads source read) (events : List τ) :
    moves.closings (events.map read) = mapClosings read (source.closings events) := by
  have steps (closings : Closings τ) :
      run moves.closeNext (mapClosings read closings) (events.map read) =
        mapClosings read (run source.closeNext closings events) := by
    induction events generalizing closings with
    | nil => rfl
    | cons event rest ih => rw [List.map_cons, run_cons, run_cons, reads.closeNext, ih]
  exact steps { opened := [], closed := [], unmatched := [] }

theorem Reads.exact (reads : moves.Reads source read) {events : List τ}
    (exactly : source.Exact (source.closings events)) :
    moves.Exact (moves.closings (events.map read)) := by
  rw [reads.closings_map]
  exact
    { opened := List.map_eq_nil_iff.mpr exactly.opened
      unmatched := List.map_eq_nil_iff.mpr exactly.unmatched
      closed := by
        intro pair member
        obtain ⟨original, listed, rfl⟩ := List.mem_map.mp member
        change moves.quantity (read original.2) = moves.quantity (read original.1)
        rw [reads.quantity, reads.quantity]
        exact exactly.closed original listed }

theorem Reads.buysOf (reads : moves.Reads source read) (events : List τ) (key : κ) :
    moves.buysOf (events.map read) key = (source.buysOf events key).map read := by
  rw [Moves.buysOf, List.filter_map]
  simp only [Function.comp_def, reads.key, reads.sells]
  rfl

theorem Reads.sellsOf (reads : moves.Reads source read) (events : List τ) (key : κ) :
    moves.sellsOf (events.map read) key = (source.sellsOf events key).map read := by
  rw [Moves.sellsOf, List.filter_map]
  simp only [Function.comp_def, reads.key, reads.sells]
  rfl

theorem Reads.neverOversells (reads : moves.Reads source read) (holdings : κ → ℕ)
    (events : List τ) :
    moves.NeverOversells holdings (events.map read) ↔ source.NeverOversells holdings events := by
  have hold (holdings : κ → ℕ) (event : τ) :
      moves.hold holdings (read event) = source.hold holdings event := by
    unfold Moves.hold
    rw [reads.key, reads.sells, reads.quantity]
  have covered (holdings : κ → ℕ) (event : τ) :
      moves.Covered holdings (read event) ↔ source.Covered holdings event := by
    unfold Moves.Covered
    rw [reads.key, reads.sells, reads.quantity]
  induction events generalizing holdings with
  | nil => exact Iff.rfl
  | cons event rest ih =>
      refine and_congr (covered holdings event) ?_
      rw [hold]
      exact ih (source.hold holdings event)

theorem Reads.endsFlat (reads : moves.Reads source read) (events : List τ) :
    moves.EndsFlat (events.map read) ↔ source.EndsFlat events := by
  have quantities (event : τ) : moves.quantity (read event) = source.quantity event :=
    reads.quantity event
  unfold Moves.EndsFlat Moves.sold
  rw [List.forall_mem_map]
  refine forall_congr' fun event => imp_congr_right fun _member => ?_
  rw [reads.key, reads.sellsOf, reads.buysOf, List.map_map, List.map_map]
  simp only [Function.comp_def, quantities]

end Reads

end Moves

end FifoLots
