/-
Fills of one position.

An accepted fill moves its cash into the book value of the position, up to the fees
of fills that open or add.  The average price stays between the fill prices since the
position was last flat or changed sides.
-/

import Mathlib.Tactic.FieldSimp
import Mathlib.Tactic.Linarith
import Mathlib.Tactic.Ring
import TradingEngine.Backtest.Portfolio
import TradingEngine.General.ValueRange

namespace TradingEngine.Backtest

open Domain ValueRange

variable {pos : PositionState} {fill : TradeFill}

/-! ### Quantity and book value -/

def signedQuantity (fill : TradeFill) : ℤ :=
  match fill.side with
  | .buy => fill.quantity
  | .sell => -fill.quantity

/-- A fill of a flat or same-side position. -/
def OpensOrAdds (pos : PositionState) (fill : TradeFill) : Prop :=
  (fill.side = .buy ∧ 0 ≤ pos.quantity) ∨ (fill.side = .sell ∧ pos.quantity ≤ 0)

instance (pos : PositionState) (fill : TradeFill) : Decidable (OpensOrAdds pos fill) :=
  inferInstanceAs (Decidable (_ ∨ _))

/-- A sale of more than is held long. -/
def Oversells (pos : PositionState) (fill : TradeFill) : Prop :=
  fill.side = .sell ∧ 0 < pos.quantity ∧ pos.quantity < fill.quantity

instance (pos : PositionState) (fill : TradeFill) : Decidable (Oversells pos fill) :=
  inferInstanceAs (Decidable (_ ∧ _))

def afterPosition (pos : PositionState) (fill : TradeFill) : PositionState :=
  match fill.side with
  | .buy => if pos.quantity < 0 then coverShort pos fill else addLong pos fill
  | .sell => if 0 < pos.quantity then reduceLong pos fill else addShort pos fill

def cashFlow (fill : TradeFill) : ℚ :=
  -(signedQuantity fill * fill.price) - fill.fees

def bookValue (pos : PositionState) : ℚ :=
  pos.quantity * pos.averagePrice - pos.realizedPnl

theorem afterPosition_cases (pos : PositionState) (fill : TradeFill) :
    (fill.side = .buy ∧ pos.quantity < 0 ∧ afterPosition pos fill = coverShort pos fill) ∨
      (fill.side = .buy ∧ 0 ≤ pos.quantity ∧ afterPosition pos fill = addLong pos fill) ∨
      (fill.side = .sell ∧ 0 < pos.quantity ∧ afterPosition pos fill = reduceLong pos fill) ∨
      (fill.side = .sell ∧ pos.quantity ≤ 0 ∧ afterPosition pos fill = addShort pos fill) := by
  unfold afterPosition
  cases side : fill.side with
  | buy =>
      by_cases short : pos.quantity < 0
      · exact Or.inl ⟨rfl, short, if_pos short⟩
      · exact Or.inr (Or.inl ⟨rfl, not_lt.mp short, if_neg short⟩)
  | sell =>
      by_cases long : 0 < pos.quantity
      · exact Or.inr (Or.inr (Or.inl ⟨rfl, long, if_pos long⟩))
      · exact Or.inr (Or.inr (Or.inr ⟨rfl, not_lt.mp long, if_neg long⟩))

theorem afterPosition_marked (pos : PositionState) (fill : TradeFill) :
    (afterPosition pos fill).lastPrice = pos.lastPrice ∧
      (afterPosition pos fill).unrealizedPnl = pos.unrealizedPnl ∧
      (afterPosition pos fill).symbol = pos.symbol := by
  obtain ⟨_, _, after⟩ | ⟨_, _, after⟩ | ⟨_, _, after⟩ | ⟨_, _, after⟩ :=
    afterPosition_cases pos fill
  all_goals
    rw [after]
    exact ⟨rfl, rfl, rfl⟩

theorem afterPosition_quantity (pos : PositionState) (fill : TradeFill) :
    (afterPosition pos fill).quantity = pos.quantity + signedQuantity fill := by
  unfold signedQuantity
  obtain ⟨side, _, after⟩ | ⟨side, _, after⟩ | ⟨side, _, after⟩ | ⟨side, _, after⟩ :=
    afterPosition_cases pos fill
  all_goals
    rw [after, side]
    rfl

theorem quantity_cast_pos (fill : TradeFill) : (0 : ℚ) < fill.quantity := by
  exact_mod_cast fill.quantity_pos

theorem coverShort_bookValue (buy : fill.side = .buy) :
    cashFlow fill + bookValue (coverShort pos fill) = bookValue pos := by
  unfold cashFlow bookValue coverShort signedQuantity
  rw [buy]
  dsimp only
  rcases lt_trichotomy (pos.quantity + fill.quantity) 0 with still | closed | flipped
  · have covers : min (fill.quantity : ℤ) (-pos.quantity) = fill.quantity := by omega
    rw [covers, if_neg (by omega), if_neg (by omega)]
    push_cast
    ring
  · have covers : min (fill.quantity : ℤ) (-pos.quantity) = fill.quantity := by omega
    have same : (pos.quantity : ℚ) = -fill.quantity := by
      have whole : pos.quantity = -(fill.quantity : ℤ) := by omega
      exact_mod_cast congrArg (Int.cast : ℤ → ℚ) whole
    rw [covers, closed, if_neg (by omega), if_pos rfl, same]
    push_cast
    ring
  · have covers : min (fill.quantity : ℤ) (-pos.quantity) = -pos.quantity := by omega
    rw [covers, if_pos flipped]
    push_cast
    ring

theorem addLong_bookValue (long : 0 ≤ pos.quantity) (buy : fill.side = .buy) :
    cashFlow fill + bookValue (addLong pos fill) = bookValue pos - fill.fees := by
  have positive := quantity_cast_pos fill
  have held : (0 : ℚ) ≤ pos.quantity := by exact_mod_cast long
  have total : (pos.quantity : ℚ) + fill.quantity ≠ 0 := by linarith
  unfold cashFlow bookValue addLong signedQuantity grossValue
  rw [buy]
  dsimp only
  push_cast
  field_simp
  ring

theorem reduceLong_bookValue (sell : fill.side = .sell) :
    cashFlow fill + bookValue (reduceLong pos fill) = bookValue pos := by
  unfold cashFlow bookValue reduceLong signedQuantity grossValue
  rw [sell]
  dsimp only
  split_ifs with closed
  · have same : (pos.quantity : ℚ) = fill.quantity := by
      have whole : pos.quantity = (fill.quantity : ℤ) := by omega
      exact_mod_cast congrArg (Int.cast : ℤ → ℚ) whole
    rw [closed, same]
    push_cast
    ring
  · push_cast
    ring

theorem addShort_bookValue (short : pos.quantity ≤ 0) (sell : fill.side = .sell) :
    cashFlow fill + bookValue (addShort pos fill) = bookValue pos - fill.fees := by
  have positive := quantity_cast_pos fill
  have held : (pos.quantity : ℚ) ≤ 0 := by exact_mod_cast short
  have total : -(pos.quantity : ℚ) + fill.quantity ≠ 0 := by linarith
  unfold cashFlow bookValue addShort signedQuantity grossValue
  rw [sell]
  dsimp only
  push_cast
  field_simp
  ring

theorem afterPosition_bookValue (pos : PositionState) (fill : TradeFill) :
    cashFlow fill + bookValue (afterPosition pos fill) =
      bookValue pos - if OpensOrAdds pos fill then fill.fees else 0 := by
  obtain ⟨buy, short, after⟩ | ⟨buy, long, after⟩ | ⟨sell, long, after⟩ | ⟨sell, short, after⟩ :=
    afterPosition_cases pos fill
  · have covers : ¬ OpensOrAdds pos fill := by
      simp [OpensOrAdds, buy, short]
    rw [after, if_neg covers, sub_zero]
    exact coverShort_bookValue buy
  · have adds : OpensOrAdds pos fill := Or.inl ⟨buy, long⟩
    rw [after, if_pos adds]
    exact addLong_bookValue long buy
  · have reduces : ¬ OpensOrAdds pos fill := by
      simp [OpensOrAdds, sell, long]
    rw [after, if_neg reduces, sub_zero]
    exact reduceLong_bookValue sell
  · have adds : OpensOrAdds pos fill := Or.inr ⟨sell, short⟩
    rw [after, if_pos adds]
    exact addShort_bookValue short sell

/-! ### Trading windows -/

/-- The signed quantity after a fill and the fill prices since the symbol was last flat
or changed sides. -/
def extendWindow (window : ℤ × List ℚ) (fill : TradeFill) : ℤ × List ℚ :=
  let quantity := window.1 + signedQuantity fill
  if quantity = 0 then (0, [])
  else if 0 < window.1 * quantity then (quantity, window.2 ++ [fill.price])
  else (quantity, [fill.price])

def symbolWindow (fills : List TradeFill) (symbol : String) : ℤ × List ℚ :=
  (fills.filter (fun fill => fill.symbol = symbol)).foldl extendWindow (0, [])

theorem extendWindow_fst (window : ℤ × List ℚ) (fill : TradeFill) :
    (extendWindow window fill).1 = window.1 + signedQuantity fill := by
  unfold extendWindow
  dsimp only
  split_ifs with closed
  · exact closed.symm
  · rfl
  · rfl

theorem symbolWindow_append (fills : List TradeFill) (fill : TradeFill) (symbol : String) :
    symbolWindow (fills ++ [fill]) symbol =
      if symbol = fill.symbol then extendWindow (symbolWindow fills symbol) fill
      else symbolWindow fills symbol := by
  unfold symbolWindow
  rw [List.filter_append]
  split_ifs with same
  · rw [List.filter_singleton, decide_eq_true same.symm, List.foldl_append]
    rfl
  · rw [List.filter_singleton, decide_eq_false (Ne.symm same), cond_false, List.append_nil]

theorem symbolWindow_quantity (fills : List TradeFill) (symbol : String) :
    (symbolWindow fills symbol).1 =
      ((fills.filter (fun fill => fill.symbol = symbol)).map signedQuantity).sum := by
  have folded : ∀ (traded : List TradeFill) (window : ℤ × List ℚ),
      (traded.foldl extendWindow window).1 = window.1 + (traded.map signedQuantity).sum := by
    intro traded
    induction traded with
    | nil => simp
    | cons fill rest ih =>
        intro window
        rw [List.foldl_cons, ih, extendWindow_fst, List.map_cons, List.sum_cons, add_assoc]
  rw [symbolWindow, folded, zero_add]

/-- What the fills of a symbol say about its position. -/
structure SoundPosition (pos : PositionState) (window : ℤ × List ℚ) : Prop where
  quantity : pos.quantity = window.1
  flat : pos.quantity = 0 → pos.averagePrice = 0
  positive : pos.quantity ≠ 0 → 0 < pos.averagePrice
  within : pos.quantity ≠ 0 → Within window.2 pos.averagePrice

namespace SoundPosition

variable {window : ℤ × List ℚ}

theorem averagePrice_eq_zero_iff (sound : SoundPosition pos window) :
    pos.averagePrice = 0 ↔ pos.quantity = 0 := by
  constructor
  · intro free
    by_contra isOpen
    exact absurd free (ne_of_gt (sound.positive isOpen))
  · exact sound.flat

theorem extend (sound : SoundPosition pos window) {next : PositionState}
    (quantity : next.quantity = pos.quantity + signedQuantity fill)
    (closed : next.quantity = 0 → next.averagePrice = 0)
    (kept : 0 < pos.quantity * next.quantity →
      0 < next.averagePrice ∧ Within (window.2 ++ [fill.price]) next.averagePrice)
    (fresh : next.quantity ≠ 0 → ¬ 0 < pos.quantity * next.quantity →
      next.averagePrice = fill.price) :
    SoundPosition next (extendWindow window fill) := by
  have reached : window.1 + signedQuantity fill = next.quantity := by
    rw [quantity, sound.quantity]
  unfold extendWindow
  rw [reached, ← sound.quantity]
  by_cases flat : next.quantity = 0
  · simp only [if_pos flat]
    exact
      { quantity := flat
        flat := closed
        positive := fun isOpen => absurd flat isOpen
        within := fun isOpen => absurd flat isOpen }
  · simp only [if_neg flat]
    by_cases sameSide : 0 < pos.quantity * next.quantity
    · rw [if_pos sameSide]
      obtain ⟨positive, within⟩ := kept sameSide
      exact
        { quantity := rfl
          flat := closed
          positive := fun _isOpen => positive
          within := fun _isOpen => within }
    · rw [if_neg sameSide]
      have atPrice := fresh flat sameSide
      exact
        { quantity := rfl
          flat := closed
          positive := fun _isOpen => atPrice.symm ▸ fill.price_pos
          within := fun _isOpen => atPrice.symm ▸ within_singleton fill.price }

theorem open_of_sameSide {next : ℤ} (sameSide : 0 < pos.quantity * next) : pos.quantity ≠ 0 := by
  intro flat
  rw [flat, zero_mul] at sameSide
  exact lt_irrefl 0 sameSide

theorem coverShort (sound : SoundPosition pos window) (buy : fill.side = .buy)
    (short : pos.quantity < 0) :
    SoundPosition (coverShort pos fill) (extendWindow window fill) := by
  have quantity : (Backtest.coverShort pos fill).quantity = pos.quantity + signedQuantity fill := by
    rw [signedQuantity, buy]
    rfl
  have average : (Backtest.coverShort pos fill).averagePrice =
      if 0 < (Backtest.coverShort pos fill).quantity then fill.price
      else if (Backtest.coverShort pos fill).quantity = 0 then 0 else pos.averagePrice := rfl
  apply sound.extend quantity
  · intro closed
    rw [average, closed, if_neg (lt_irrefl 0), if_pos rfl]
  · intro sameSide
    have still := neg_of_mul_pos_right sameSide short.le
    rw [average, if_neg still.le.not_gt, if_neg still.ne]
    exact ⟨sound.positive short.ne, (sound.within short.ne).append fill.price⟩
  · intro isOpen flipped
    have long : 0 < (Backtest.coverShort pos fill).quantity := by
      rcases lt_or_gt_of_ne isOpen with still | long
      · exact absurd (mul_pos_of_neg_of_neg short still) flipped
      · exact long
    rw [average, if_pos long]

theorem addLong (sound : SoundPosition pos window) (buy : fill.side = .buy)
    (long : 0 ≤ pos.quantity) :
    SoundPosition (addLong pos fill) (extendWindow window fill) := by
  have shares := quantity_cast_pos fill
  have quantity : (Backtest.addLong pos fill).quantity = pos.quantity + signedQuantity fill := by
    rw [signedQuantity, buy]
    rfl
  have rises : 0 < (Backtest.addLong pos fill).quantity :=
    Int.add_pos_of_nonneg_of_pos long (by exact_mod_cast fill.quantity_pos)
  have average : (Backtest.addLong pos fill).averagePrice =
      (pos.quantity * pos.averagePrice + fill.quantity * fill.price) /
        (pos.quantity + fill.quantity) := by
    unfold Backtest.addLong grossValue
    push_cast
    rfl
  apply sound.extend quantity
  · intro closed
    exact absurd closed rises.ne'
  · intro sameSide
    have isOpen := open_of_sameSide sameSide
    have held : (0 : ℚ) < pos.quantity := by
      exact_mod_cast lt_of_le_of_ne long isOpen.symm
    have positive := sound.positive isOpen
    have price := fill.price_pos
    rw [average]
    exact ⟨div_pos (add_pos (mul_pos held positive) (mul_pos shares price)) (add_pos held shares),
      (sound.within isOpen).average held shares⟩
  · intro _isOpen opens
    have flat : pos.quantity = 0 := by
      by_contra isOpen
      exact opens (mul_pos (lt_of_le_of_ne long (Ne.symm isOpen)) rises)
    rw [average, flat, Int.cast_zero, zero_mul, zero_add, zero_add]
    exact mul_div_cancel_left₀ fill.price shares.ne'

theorem reduceLong (sound : SoundPosition pos window) (sell : fill.side = .sell)
    (long : 0 < pos.quantity) (enough : (fill.quantity : ℤ) ≤ pos.quantity) :
    SoundPosition (reduceLong pos fill) (extendWindow window fill) := by
  have quantity : (Backtest.reduceLong pos fill).quantity =
      pos.quantity + signedQuantity fill := by
    rw [signedQuantity, sell]
    rfl
  have average : (Backtest.reduceLong pos fill).averagePrice =
      if (Backtest.reduceLong pos fill).quantity = 0 then 0 else pos.averagePrice := rfl
  have remains : 0 ≤ (Backtest.reduceLong pos fill).quantity := Int.sub_nonneg_of_le enough
  apply sound.extend quantity
  · intro closed
    rw [average, if_pos closed]
  · intro sameSide
    have still := pos_of_mul_pos_right sameSide long.le
    rw [average, if_neg still.ne']
    exact ⟨sound.positive long.ne', (sound.within long.ne').append fill.price⟩
  · intro isOpen flipped
    exact absurd (mul_pos long (lt_of_le_of_ne remains isOpen.symm)) flipped

theorem addShort (sound : SoundPosition pos window) (sell : fill.side = .sell)
    (short : pos.quantity ≤ 0) :
    SoundPosition (addShort pos fill) (extendWindow window fill) := by
  have shares := quantity_cast_pos fill
  have quantity : (Backtest.addShort pos fill).quantity = pos.quantity + signedQuantity fill := by
    rw [signedQuantity, sell]
    rfl
  have falls : (Backtest.addShort pos fill).quantity < 0 := by
    have sold := fill.quantity_pos
    have after : (Backtest.addShort pos fill).quantity = pos.quantity - fill.quantity := rfl
    omega
  have average : (Backtest.addShort pos fill).averagePrice =
      (-pos.quantity * pos.averagePrice + fill.quantity * fill.price) /
        (-pos.quantity + fill.quantity) := by
    unfold Backtest.addShort grossValue
    push_cast
    rfl
  apply sound.extend quantity
  · intro closed
    exact absurd closed falls.ne
  · intro sameSide
    have isOpen := open_of_sameSide sameSide
    have held : (0 : ℚ) < -pos.quantity := by
      exact_mod_cast Int.neg_pos_of_neg (lt_of_le_of_ne short isOpen)
    have positive := sound.positive isOpen
    have price := fill.price_pos
    rw [average]
    exact ⟨div_pos (add_pos (mul_pos held positive) (mul_pos shares price)) (add_pos held shares),
      (sound.within isOpen).average held shares⟩
  · intro _isOpen opens
    have flat : pos.quantity = 0 := by
      by_contra isOpen
      exact opens (mul_pos_of_neg_of_neg (lt_of_le_of_ne short isOpen) falls)
    rw [average, flat, Int.cast_zero, neg_zero, zero_mul, zero_add, zero_add]
    exact mul_div_cancel_left₀ fill.price shares.ne'

theorem afterPosition (sound : SoundPosition pos window) (accepted : ¬ Oversells pos fill) :
    SoundPosition (afterPosition pos fill) (extendWindow window fill) := by
  obtain ⟨buy, short, after⟩ | ⟨buy, long, after⟩ | ⟨sell, long, after⟩ | ⟨sell, short, after⟩ :=
    afterPosition_cases pos fill
  · exact after ▸ sound.coverShort buy short
  · exact after ▸ sound.addLong buy long
  · have enough : (fill.quantity : ℤ) ≤ pos.quantity := by
      by_contra oversold
      exact accepted ⟨sell, long, not_le.mp oversold⟩
    exact after ▸ sound.reduceLong sell long enough
  · exact after ▸ sound.addShort sell short

end SoundPosition

end TradingEngine.Backtest
