/-
What the intraday strategies share.

Each of them keeps one state for each symbol and at most one position in it.  A bar first
gives the open position a chance to exit; only a flat state looks for an entry.  The session
VWAP and the order intents are built alike in all of them.
-/

import TradingEngine.Strategies.PairsTrading

namespace TradingEngine.Intraday

open Domain
open Signals (Side)

/-! ### Intents -/

inductive Direction where
  | long
  | short
deriving DecidableEq

def Direction.entrySide : Direction → Side
  | .long => .buy
  | .short => .sell

def Direction.exitSide : Direction → Side
  | .long => .sell
  | .short => .buy

/-- `OrderIntent` with its `reason`. -/
structure Intent extends OrderIntent where
  reason : String
deriving DecidableEq

/-- What a configuration says of every intent of its strategy. -/
structure OrderTerms where
  strategyId : String
  product : ProductType := .mis
  quantity : ℤ := 10
  quantity_pos : 0 < quantity := by decide

def OrderTerms.intent (terms : OrderTerms) (bar : Domain.Bar) (side : Side) (reason : String) :
    Intent :=
  { PairsTrading.legIntent terms.strategyId bar.symbol bar.exchange side terms.quantity
      terms.quantity_pos with
    product := terms.product
    reason := reason }

/-- A purchase counts up, a sale counts down. -/
def signedQuantity (intent : OrderIntent) : ℤ :=
  match intent.side with
  | .buy => intent.quantity
  | .sell => -intent.quantity

def Intent.signed (intent : Intent) : ℤ :=
  signedQuantity intent.toOrderIntent

def netQuantity (symbol : String) (intents : List OrderIntent) : ℤ :=
  ((intents.filter (fun intent => intent.symbol = symbol)).map signedQuantity).sum

theorem netQuantity_append (symbol : String) (earlier later : List OrderIntent) :
    netQuantity symbol (earlier ++ later) =
      netQuantity symbol earlier + netQuantity symbol later := by
  unfold netQuantity
  rw [List.filter_append, List.map_append, List.sum_append]

theorem netQuantity_singleton (symbol : String) (intent : OrderIntent) :
    netQuantity symbol [intent] =
      if intent.symbol = symbol then signedQuantity intent else 0 := by
  unfold netQuantity
  rw [List.filter_singleton]
  by_cases same : intent.symbol = symbol
  · rw [decide_eq_true same, if_pos same]
    exact add_zero _
  · rw [decide_eq_false same, if_neg same]
    rfl

/-! ### Session VWAP -/

structure SessionVwap where
  cumulativePv : ℚ
  cumulativeVol : ℕ
  vwap : Option ℚ
deriving DecidableEq

namespace SessionVwap

def start : SessionVwap :=
  { cumulativePv := 0
    cumulativeVol := 0
    vwap := none }

/-- `_update_vwap`.  A bar without volume counts its close once. -/
def update (bar : Domain.Bar) (session : SessionVwap) : SessionVwap :=
  let cumulativePv :=
    if 0 < bar.volume then
      session.cumulativePv + (bar.high + bar.low + bar.close) / 3 * bar.volume
    else session.cumulativePv + bar.close
  let cumulativeVol :=
    if 0 < bar.volume then session.cumulativeVol + bar.volume else session.cumulativeVol + 1
  { cumulativePv := cumulativePv
    cumulativeVol := cumulativeVol
    vwap := some (cumulativePv / cumulativeVol) }

end SessionVwap

/-! ### Days -/

theorem day_today {σ : Type} (day : σ → Option ℤ) (state : σ) {fresh : σ} {date : ℤ}
    (dated : day fresh = some date) :
    day (if day state = some date then state else fresh) = some date := by
  split_ifs with same
  · exact same
  · exact dated

/-! ### Exit before entry -/

/-- What a bar makes of the position; `P` is the type of positions. -/
inductive BarAction (P : Type) where
  | wait
  | exit (intent : Intent)
  | enter (intent : Intent) (position : P)

namespace BarAction

variable {P : Type}

def intents : BarAction P → List Intent
  | wait => []
  | exit intent => [intent]
  | enter intent _ => [intent]

def position (before : Option P) : BarAction P → Option P
  | wait => before
  | exit _ => none
  | enter _ position => some position

/-- `trades_taken_today` after the bar. -/
def tradesTaken (before : ℕ) : BarAction P → ℕ
  | wait => before
  | exit _ => before
  | enter _ _ => before + 1

end BarAction

/-- The last part of every `on_bar`: an open position is checked for an exit, and without one
an entry is looked for. -/
def exitOrEnter {P : Type} (position : Option P) (exit : P → Option Intent)
    (entry : Option (Intent × P)) : BarAction P :=
  match position with
  | some held =>
      match exit held with
      | some intent => .exit intent
      | none => .wait
  | none =>
      match entry with
      | some (intent, position) => .enter intent position
      | none => .wait

section ExitOrEnter

variable {P : Type} {position : Option P} {exit : P → Option Intent}
  {entry : Option (Intent × P)}

theorem exitOrEnter_cases (position : Option P) (exit : P → Option Intent)
    (entry : Option (Intent × P)) :
    (∃ held intent, position = some held ∧ exit held = some intent ∧
      exitOrEnter position exit entry = .exit intent) ∨
    (∃ held, position = some held ∧ exit held = none ∧
      exitOrEnter position exit entry = .wait) ∨
    (∃ intent opened, position = none ∧ entry = some (intent, opened) ∧
      exitOrEnter position exit entry = .enter intent opened) ∨
    (position = none ∧ entry = none ∧ exitOrEnter position exit entry = .wait) := by
  unfold exitOrEnter
  cases position with
  | some held =>
      cases exiting : exit held with
      | some intent => exact Or.inl ⟨held, intent, rfl, exiting, by simp only [exiting]⟩
      | none => exact Or.inr (Or.inl ⟨held, rfl, exiting, by simp only [exiting]⟩)
  | none =>
      cases entry with
      | some found => exact Or.inr (Or.inr (Or.inl ⟨found.1, found.2, rfl, rfl, rfl⟩))
      | none => exact Or.inr (Or.inr (Or.inr ⟨rfl, rfl, rfl⟩))

theorem mem_intents_exitOrEnter {intent : Intent}
    (member : intent ∈ (exitOrEnter position exit entry).intents) :
    (∃ held, position = some held ∧ exit held = some intent) ∨
      (position = none ∧ ∃ opened, entry = some (intent, opened)) := by
  rcases exitOrEnter_cases position exit entry with ⟨held, found, holding, exiting, action⟩ |
    ⟨_, _, _, action⟩ | ⟨found, opened, flat, entering, action⟩ | ⟨_, _, action⟩
  · rw [action] at member
    rw [List.mem_singleton.mp member]
    exact Or.inl ⟨held, holding, exiting⟩
  · rw [action] at member
    exact absurd member List.not_mem_nil
  · rw [action] at member
    rw [List.mem_singleton.mp member]
    exact Or.inr ⟨flat, opened, entering⟩
  · rw [action] at member
    exact absurd member List.not_mem_nil

theorem position_exitOrEnter {held : P}
    (open_ : (exitOrEnter position exit entry).position position = some held) :
    (position = some held ∧ (exitOrEnter position exit entry).intents = []) ∨
      ∃ intent, position = none ∧ entry = some (intent, held) ∧
        (exitOrEnter position exit entry).intents = [intent] := by
  rcases exitOrEnter_cases position exit entry with ⟨_, _, _, _, action⟩ | ⟨_, _, _, action⟩ |
    ⟨intent, opened, flat, entering, action⟩ | ⟨_, _, action⟩
  · rw [action] at open_
    cases open_
  · rw [action] at open_ ⊢
    exact Or.inl ⟨open_, rfl⟩
  · rw [action] at open_ ⊢
    cases open_
    exact Or.inr ⟨intent, flat, entering, rfl⟩
  · rw [action] at open_ ⊢
    exact Or.inl ⟨open_, rfl⟩

theorem entered_of_ite {allowed : Prop} [Decidable allowed]
    {found : Option (Intent × Direction)} (opens : Direction → P) (sideOf : P → Direction)
    (sided : ∀ side, sideOf (opens side) = side) {intent : Intent} {opened : P}
    (entered : (if allowed then found.map (fun choice => (choice.1, opens choice.2)) else none) =
      some (intent, opened)) :
    allowed ∧ found = some (intent, sideOf opened) ∧ opened = opens (sideOf opened) := by
  obtain ⟨permitted, mapped⟩ := Option.ite_none_right_eq_some.mp entered
  obtain ⟨⟨chosen, side⟩, choosing, same⟩ := Option.map_eq_some_iff.mp mapped
  cases same
  rw [sided]
  exact ⟨permitted, choosing, rfl⟩

end ExitOrEnter

/-- `bps / 10000`. -/
def fraction (bps : ℚ) : ℚ :=
  bps / 10000

namespace Direction

def against (direction : Direction) (price factor : ℚ) : ℚ :=
  match direction with
  | .long => price * (1 - factor)
  | .short => price * (1 + factor)

def inFavour (direction : Direction) (price factor : ℚ) : ℚ :=
  match direction with
  | .long => price * (1 + factor)
  | .short => price * (1 - factor)

/-- The bar reaches a price against the position. -/
def stopHit (direction : Direction) (bar : Domain.Bar) (price : ℚ) : Bool :=
  match direction with
  | .long => bar.low ≤ price
  | .short => price ≤ bar.high

/-- The bar reaches a price in favour of the position. -/
def targetHit (direction : Direction) (bar : Domain.Bar) (price : ℚ) : Bool :=
  match direction with
  | .long => price ≤ bar.high
  | .short => bar.low ≤ price

end Direction

end TradingEngine.Intraday
