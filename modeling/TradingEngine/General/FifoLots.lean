/-
Stocks that are used first in, first out.

Buys put units on stock and sells take the oldest ones.  Units carry a label, such as what they
cost.  Whatever the order of the moves, as long as no sell exceeds the stock, the sells of a key
together take its first units, and the others stay.
-/

import Mathlib.Algebra.BigOperators.Group.Finset.Piecewise
import Mathlib.Algebra.BigOperators.Group.List.Basic
import Mathlib.Algebra.Group.Prod
import Mathlib.Algebra.GroupWithZero.Nat
import TradingEngine.General.EventRun

namespace FifoLots

open EventRun

/-! ### Lots and their units -/

section Units

variable {L M : Type} (size : L → ℕ) (label : L → M)

def units (lots : List L) : List M :=
  lots.flatMap (fun lot => List.replicate (size lot) (label lot))

variable {size label} {lot : L} {lots rest first second : List L} {quantity : ℕ}

theorem units_cons :
    units size label (lot :: rest) =
      List.replicate (size lot) (label lot) ++ units size label rest :=
  rfl

theorem units_append :
    units size label (first ++ second) = units size label first ++ units size label second :=
  List.flatMap_append

theorem map_units {N : Type} (relabel : M → N) :
    (units size label lots).map relabel = units size (fun lot => relabel (label lot)) lots := by
  rw [units, List.map_flatMap]
  simp only [List.map_replicate]
  rfl

theorem units_map {K : Type} (read : K → L) (sources : List K) :
    units size label (sources.map read) =
      units (fun source => size (read source)) (fun source => label (read source)) sources :=
  List.flatMap_map _ _ _

theorem length_units : (units size label lots).length = (lots.map size).sum := by
  induction lots with
  | nil => rfl
  | cons lot rest ih =>
      rw [units_cons, List.length_append, List.length_replicate, ih, List.map_cons,
        List.sum_cons]

theorem sum_units [AddCommMonoid M] :
    (units size label lots).sum = (lots.map (fun lot => size lot • label lot)).sum := by
  induction lots with
  | nil => rfl
  | cons lot rest ih =>
      rw [units_cons, List.sum_append, List.sum_replicate, ih, List.map_cons, List.sum_cons]

theorem take_units_cons :
    (units size label (lot :: rest)).take quantity =
      List.replicate (min quantity (size lot)) (label lot) ++
        (units size label rest).take (quantity - size lot) := by
  rw [units_cons, List.take_append, List.take_replicate, List.length_replicate]

theorem drop_units_cons :
    (units size label (lot :: rest)).drop quantity =
      List.replicate (size lot - quantity) (label lot) ++
        (units size label rest).drop (quantity - size lot) := by
  rw [units_cons, List.drop_append, List.drop_replicate, List.length_replicate]

end Units

/-! ### Moves of a stock -/

/-- How events move the stocks of their keys. -/
structure Moves (ε κ M : Type) where
  key : ε → κ
  sells : ε → Bool
  quantity : ε → ℕ
  label : ε → M

namespace Moves

variable {ε κ M : Type} [DecidableEq κ] (moves : Moves ε κ M)

def buysOf (events : List ε) (key : κ) : List ε :=
  events.filter (fun event => moves.key event = key ∧ moves.sells event = false)

def sellsOf (events : List ε) (key : κ) : List ε :=
  events.filter (fun event => moves.key event = key ∧ moves.sells event = true)

def bought (events : List ε) (key : κ) : List M :=
  units moves.quantity moves.label (moves.buysOf events key)

def sold (events : List ε) (key : κ) : ℕ :=
  ((moves.sellsOf events key).map moves.quantity).sum

/-- The quantities on stock. -/
def hold (holdings : κ → ℕ) (event : ε) : κ → ℕ :=
  Function.update holdings (moves.key event)
    (if moves.sells event then holdings (moves.key event) - moves.quantity event
    else holdings (moves.key event) + moves.quantity event)

def Covered (holdings : κ → ℕ) (event : ε) : Prop :=
  moves.sells event = true → moves.quantity event ≤ holdings (moves.key event)

instance (holdings : κ → ℕ) (event : ε) : Decidable (moves.Covered holdings event) :=
  inferInstanceAs (Decidable (_ → _))

/-- No sell takes more than what is there. -/
def NeverOversells (holdings : κ → ℕ) (events : List ε) : Prop :=
  Admissible moves.hold moves.Covered holdings events

instance (holdings : κ → ℕ) (events : List ε) : Decidable (moves.NeverOversells holdings events) :=
  decidableAdmissible holdings events

/-- As much of every key was sold as was bought. -/
def EndsFlat (events : List ε) : Prop :=
  ∀ event ∈ events, moves.sold events (moves.key event) =
    ((moves.buysOf events (moves.key event)).map moves.quantity).sum

instance (events : List ε) : Decidable (moves.EndsFlat events) :=
  List.decidableBAll _ events

def restock (stock : κ → List M) (event : ε) : κ → List M :=
  Function.update stock (moves.key event)
    (if moves.sells event then (stock (moves.key event)).drop (moves.quantity event)
    else stock (moves.key event) ++ List.replicate (moves.quantity event) (moves.label event))

def consumed (stock : κ → List M) (event : ε) : List M :=
  if moves.sells event then (stock (moves.key event)).take (moves.quantity event) else []

def consumedBy (key : κ) : (κ → List M) → List ε → List M
  | _stock, [] => []
  | stock, event :: rest =>
      (if moves.key event = key then moves.consumed stock event else []) ++
        consumedBy key (moves.restock stock event) rest

variable {moves} {stock : κ → List M} {holdings : κ → ℕ} {event : ε} {events rest : List ε}
  {key : κ}

theorem sold_cons_of_sell (selling : moves.sells event = true) :
    moves.sold (event :: rest) (moves.key event) =
      moves.quantity event + moves.sold rest (moves.key event) := by
  simp [sold, sellsOf, selling]

theorem bought_cons_of_sell (selling : moves.sells event = true) :
    moves.bought (event :: rest) key = moves.bought rest key := by
  simp [bought, buysOf, selling]

theorem sold_cons_of_buy (buying : moves.sells event = false) :
    moves.sold (event :: rest) key = moves.sold rest key := by
  simp [sold, sellsOf, buying]

theorem bought_cons_of_buy (buying : moves.sells event = false) :
    moves.bought (event :: rest) (moves.key event) =
      List.replicate (moves.quantity event) (moves.label event) ++
        moves.bought rest (moves.key event) := by
  simp [bought, buysOf, buying, units_cons]

theorem sold_cons_of_ne (other : moves.key event ≠ key) :
    moves.sold (event :: rest) key = moves.sold rest key := by
  simp [sold, sellsOf, other]

theorem bought_cons_of_ne (other : moves.key event ≠ key) :
    moves.bought (event :: rest) key = moves.bought rest key := by
  simp [bought, buysOf, other]

theorem hold_of_sell (selling : moves.sells event = true) :
    moves.hold holdings event (moves.key event) =
      holdings (moves.key event) - moves.quantity event := by
  simp [hold, selling]

theorem hold_of_buy (buying : moves.sells event = false) :
    moves.hold holdings event (moves.key event) =
      holdings (moves.key event) + moves.quantity event := by
  simp [hold, buying]

theorem hold_of_ne (other : moves.key event ≠ key) :
    moves.hold holdings event key = holdings key :=
  Function.update_of_ne other.symm _ _

theorem restock_of_sell (selling : moves.sells event = true) :
    moves.restock stock event (moves.key event) =
      (stock (moves.key event)).drop (moves.quantity event) := by
  simp [restock, selling]

theorem restock_of_buy (buying : moves.sells event = false) :
    moves.restock stock event (moves.key event) =
      stock (moves.key event) ++ List.replicate (moves.quantity event) (moves.label event) := by
  simp [restock, buying]

theorem restock_of_ne (other : moves.key event ≠ key) :
    moves.restock stock event key = stock key :=
  Function.update_of_ne other.symm _ _

theorem hold_length (stock : κ → List M) (event : ε) :
    moves.hold (fun key => (stock key).length) event =
      fun key => (moves.restock stock event key).length := by
  funext key
  by_cases same : moves.key event = key
  · subst same
    cases kind : moves.sells event with
    | true => rw [hold_of_sell kind, restock_of_sell kind, List.length_drop]
    | false =>
        rw [hold_of_buy kind, restock_of_buy kind, List.length_append, List.length_replicate]
  · rw [hold_of_ne same, restock_of_ne same]

theorem take_append_add {first second : List M} {taken later : ℕ}
    (enough : taken ≤ first.length) :
    (first ++ second).take (taken + later) =
      first.take taken ++ (first.drop taken ++ second).take later := by
  rw [List.take_add, List.take_append_of_le_length enough, List.drop_append_of_le_length enough]

theorem drop_append_add {first second : List M} {taken later : ℕ}
    (enough : taken ≤ first.length) :
    (first ++ second).drop (taken + later) = (first.drop taken ++ second).drop later := by
  rw [← List.drop_drop, List.drop_append_of_le_length enough]

theorem consumedBy_eq (key : κ)
    (covered : moves.NeverOversells (fun key => (stock key).length) events) :
    moves.consumedBy key stock events =
        (stock key ++ moves.bought events key).take (moves.sold events key) ∧
      run moves.restock stock events key =
        (stock key ++ moves.bought events key).drop (moves.sold events key) := by
  induction events generalizing stock with
  | nil => simp [consumedBy, sold, sellsOf, bought, buysOf, units]
  | cons event rest ih =>
      obtain ⟨allowed, later⟩ := covered
      rw [hold_length] at later
      obtain ⟨taken, left⟩ := ih later
      rw [consumedBy, run_cons, taken, left]
      by_cases same : moves.key event = key
      · subst same
        rw [if_pos rfl]
        cases kind : moves.sells event with
        | true =>
            have enough := allowed kind
            rw [sold_cons_of_sell kind, bought_cons_of_sell kind, restock_of_sell kind,
              take_append_add enough, drop_append_add enough, consumed, if_pos kind]
            exact ⟨rfl, rfl⟩
        | false =>
            rw [sold_cons_of_buy kind, bought_cons_of_buy kind, restock_of_buy kind, consumed,
              kind, List.append_assoc]
            exact ⟨rfl, rfl⟩
      · rw [if_neg same, sold_cons_of_ne same, bought_cons_of_ne same, restock_of_ne same]
        exact ⟨rfl, rfl⟩

theorem hold_add_sold (key : κ) (covered : moves.NeverOversells holdings events) :
    run moves.hold holdings events key + moves.sold events key =
      holdings key + (moves.bought events key).length := by
  induction events generalizing holdings with
  | nil => simp [sold, sellsOf, bought, buysOf, units]
  | cons event rest ih =>
      obtain ⟨allowed, later⟩ := covered
      have others := ih later
      rw [run_cons]
      by_cases same : moves.key event = key
      · subst same
        cases kind : moves.sells event with
        | true =>
            have enough := allowed kind
            rw [hold_of_sell kind] at others
            rw [sold_cons_of_sell kind, bought_cons_of_sell kind]
            omega
        | false =>
            rw [hold_of_buy kind] at others
            rw [sold_cons_of_buy kind, bought_cons_of_buy kind, List.length_append,
              List.length_replicate]
            omega
      · rw [hold_of_ne same] at others
        rw [sold_cons_of_ne same, bought_cons_of_ne same]
        exact others

theorem sold_le_bought (key : κ) (covered : moves.NeverOversells (fun _ => 0) events) :
    moves.sold events key ≤ (moves.bought events key).length := by
  have balance := hold_add_sold key covered
  omega

theorem bought_append (earlier later : List ε) (key : κ) :
    moves.bought (earlier ++ later) key =
      moves.bought earlier key ++ moves.bought later key := by
  rw [bought, buysOf, List.filter_append, units_append]
  rfl

theorem hold_le_bought (within : ∀ key, holdings key ≤ (moves.bought events key).length)
    (event : ε) (key : κ) :
    moves.hold holdings event key ≤ (moves.bought (events ++ [event]) key).length := by
  have before := within key
  rw [bought_append, List.length_append]
  by_cases same : moves.key event = key
  · subst same
    cases kind : moves.sells event with
    | true =>
        rw [hold_of_sell kind]
        omega
    | false =>
        rw [hold_of_buy kind, bought_cons_of_buy kind, List.length_append, List.length_replicate]
        omega
  · rw [hold_of_ne same]
    omega

theorem hold_of_flat (covered : moves.NeverOversells (fun _ => 0) events)
    (flat : moves.EndsFlat events) (key : κ) : run moves.hold (fun _ => 0) events key = 0 := by
  have balance := hold_add_sold key covered
  by_cases traded : ∃ event ∈ events, moves.key event = key
  · obtain ⟨event, member, rfl⟩ := traded
    have sold := flat event member
    rw [bought, length_units] at balance
    omega
  · have nothing : moves.buysOf events key = [] :=
      List.filter_eq_nil_iff.mpr fun event member own =>
        traded ⟨event, member, (of_decide_eq_true own).1⟩
    rw [bought, nothing] at balance
    exact Nat.eq_zero_of_add_eq_zero_right balance

theorem sum_take_sold_of_flat {N : Type} [AddCommMonoid N] (flat : moves.EndsFlat events)
    (member : event ∈ events) (label : ε → N) :
    ((units moves.quantity label (moves.buysOf events (moves.key event))).take
        (moves.sold events (moves.key event))).sum =
      ((moves.buysOf events (moves.key event)).map
        (fun buy => moves.quantity buy • label buy)).sum := by
  rw [flat event member, ← length_units, List.take_length, sum_units]

theorem consumedBy_eq_of_empty (key : κ) (covered : moves.NeverOversells (fun _ => 0) events) :
    moves.consumedBy key (fun _ => []) events =
        (moves.bought events key).take (moves.sold events key) ∧
      run moves.restock (fun _ => []) events key =
        (moves.bought events key).drop (moves.sold events key) :=
  consumedBy_eq key covered

end Moves

/-! ### Sums by key -/

theorem sum_by_key {α κ M : Type} [DecidableEq κ] [AddCommMonoid M] (key : α → κ) (value : α → M)
    (keys : Finset κ) {items : List α} (known : ∀ item ∈ items, key item ∈ keys) :
    ∑ k ∈ keys, ((items.filter (fun item => key item = k)).map value).sum =
      (items.map value).sum := by
  induction items with
  | nil => simp
  | cons item rest ih =>
      have others := ih fun later member => known later (List.mem_cons_of_mem _ member)
      have own : ∑ k ∈ keys, (if key item = k then value item else 0) = value item := by
        rw [Finset.sum_ite_eq, if_pos (known item List.mem_cons_self)]
      rw [List.map_cons, List.sum_cons, ← others, ← own, ← Finset.sum_add_distrib]
      refine Finset.sum_congr rfl fun k _listed => ?_
      by_cases same : key item = k
      · simp [same]
      · simp [same]

namespace Moves

variable {ε κ M N : Type} [DecidableEq κ] [AddCommMonoid N] (moves : Moves ε κ M)

omit [DecidableEq κ] in
theorem sum_sides (events : List ε) (value : ε → N) :
    (events.map value).sum =
      ((events.filter (fun event => moves.sells event = false)).map value).sum +
        ((events.filter (fun event => moves.sells event = true)).map value).sum := by
  have sides := (List.filter_append_perm (fun event => moves.sells event = false) events).map value
  rw [← sides.sum_eq, List.map_append, List.sum_append]
  simp

theorem sum_buysOf (events : List ε) (value : ε → N) :
    ∑ key ∈ (events.map moves.key).toFinset, ((moves.buysOf events key).map value).sum =
      ((events.filter (fun event => moves.sells event = false)).map value).sum := by
  rw [← sum_by_key moves.key value (events.map moves.key).toFinset]
  · simp only [buysOf, List.filter_filter, Bool.decide_and]
  · intro event member
    exact List.mem_toFinset.mpr (List.mem_map_of_mem (List.mem_of_mem_filter member))

theorem sum_sellsOf (events : List ε) (value : ε → N) :
    ∑ key ∈ (events.map moves.key).toFinset, ((moves.sellsOf events key).map value).sum =
      ((events.filter (fun event => moves.sells event = true)).map value).sum := by
  rw [← sum_by_key moves.key value (events.map moves.key).toFinset]
  · simp only [sellsOf, List.filter_filter, Bool.decide_and]
  · intro event member
    exact List.mem_toFinset.mpr (List.mem_map_of_mem (List.mem_of_mem_filter member))

end Moves

end FifoLots
