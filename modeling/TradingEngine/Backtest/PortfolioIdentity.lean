/-
The accounting identity of the backtest portfolio.

Cash, the book value of the positions and the fees of opening fills add up to the
initial cash after any fills; equity, quantities and average prices follow.
-/

import TradingEngine.Backtest.PositionFills
import TradingEngine.General.EventRun

namespace TradingEngine.Backtest

open Domain BacktestPortfolio EventRun ValueRange
open Signals (Side)

variable {portfolio : BacktestPortfolio} {fill : TradeFill}

/-! ### One fill -/

theorem setDefault_get? (portfolio : BacktestPortfolio) (fill : TradeFill) (symbol : String) :
    (portfolio.setDefault fill).positions.get? symbol =
      if symbol = fill.symbol then some (portfolio.positionFor fill)
      else portfolio.positions.get? symbol := by
  unfold setDefault positionFor
  cases held : portfolio.positions.get? fill.symbol with
  | some pos =>
      split_ifs with same
      · rw [same, held, Option.getD_some]
      · rfl
  | none => exact OrderedDict.get?_insert _ _ _ _

theorem setDefault_total {M : Type} [AddCommGroup M] (portfolio : BacktestPortfolio)
    (fill : TradeFill) (weight : String → PositionState → M)
    (nothing : weight fill.symbol (newPosition portfolio.product fill) = 0) :
    (portfolio.setDefault fill).positions.total weight = portfolio.positions.total weight := by
  unfold setDefault
  cases held : portfolio.positions.get? fill.symbol with
  | some pos => rfl
  | none =>
      dsimp only
      rw [OrderedDict.total_insert_of_get?_none weight _ held, nothing, add_zero]

theorem applyFill_of_oversells (oversells : Oversells (portfolio.positionFor fill) fill) :
    portfolio.applyFill fill =
      (.error { message := insufficientText (portfolio.positionFor fill) fill }, portfolio) := by
  obtain ⟨sell, long, short⟩ := oversells
  have present : portfolio.setDefault fill = portfolio := by
    unfold setDefault
    cases held : portfolio.positions.get? fill.symbol with
    | some pos => rfl
    | none =>
        have flat : (portfolio.positionFor fill).quantity = 0 := by
          rw [positionFor, held]
          rfl
        omega
  unfold applyFill
  rw [sell, present]
  dsimp only
  rw [if_pos long, if_pos short]

theorem applyFill_of_accepted (accepted : ¬ Oversells (portfolio.positionFor fill) fill) :
    portfolio.applyFill fill =
      (.ok (), (portfolio.setDefault fill).book fill
        (afterPosition (portfolio.positionFor fill) fill) (portfolio.cash + cashFlow fill)) := by
  have cash : (portfolio.setDefault fill).cash = portfolio.cash := by
    unfold setDefault
    cases portfolio.positions.get? fill.symbol <;> rfl
  unfold applyFill afterPosition cashFlow signedQuantity grossValue
  cases side : fill.side with
  | buy =>
      dsimp only
      rw [cash]
      have spent : portfolio.cash - (fill.quantity * fill.price + fill.fees) =
          portfolio.cash + (-(((fill.quantity : ℤ) : ℚ) * fill.price) - fill.fees) := by
        push_cast
        ring
      rw [spent]
      split_ifs <;> rfl
  | sell =>
      dsimp only
      rw [cash]
      have gained : portfolio.cash + (fill.quantity * fill.price - fill.fees) =
          portfolio.cash + (-(((-(fill.quantity : ℤ) : ℤ) : ℚ) * fill.price) - fill.fees) := by
        push_cast
        ring
      rw [gained]
      by_cases long : 0 < (portfolio.positionFor fill).quantity
      · have enough : ¬ (portfolio.positionFor fill).quantity < fill.quantity := by
          intro short
          exact accepted ⟨side, long, short⟩
        rw [if_pos long, if_pos long, if_neg enough]
      · rw [if_neg long, if_neg long]

theorem afterFill_get? (portfolio : BacktestPortfolio) (fill : TradeFill) (symbol : String) :
    (portfolio.afterFill fill).positions.get? symbol =
      if symbol = fill.symbol ∧ ¬ Oversells (portfolio.positionFor fill) fill then
        some (afterPosition (portfolio.positionFor fill) fill)
      else portfolio.positions.get? symbol := by
  by_cases oversells : Oversells (portfolio.positionFor fill) fill
  · rw [afterFill, applyFill_of_oversells oversells, if_neg (fun both => both.2 oversells)]
  · rw [afterFill, applyFill_of_accepted oversells]
    change (OrderedDict.insert _ _ _).get? symbol = _
    rw [OrderedDict.get?_insert, setDefault_get?]
    by_cases same : symbol = fill.symbol
    · rw [if_pos same, if_pos ⟨same, oversells⟩]
    · rw [if_neg same, if_neg same, if_neg (fun both => same both.1)]

theorem afterFill_total {M : Type} [AddCommGroup M] (weight : String → PositionState → M)
    (nothing : weight fill.symbol (newPosition portfolio.product fill) = 0)
    (accepted : ¬ Oversells (portfolio.positionFor fill) fill) :
    (portfolio.afterFill fill).positions.total weight +
        weight fill.symbol (portfolio.positionFor fill) =
      portfolio.positions.total weight +
        weight fill.symbol (afterPosition (portfolio.positionFor fill) fill) := by
  have stored : (portfolio.setDefault fill).positions.get? fill.symbol =
      some (portfolio.positionFor fill) := by
    rw [setDefault_get?, if_pos rfl]
  rw [afterFill, applyFill_of_accepted accepted, ← setDefault_total portfolio fill weight nothing]
  exact OrderedDict.total_insert_of_get?_some weight _ stored

/-- The fees of a fill of a flat or same-side position. -/
def openingFee (portfolio : BacktestPortfolio) (fill : TradeFill) : ℚ :=
  if OpensOrAdds (portfolio.positionFor fill) fill then fill.fees else 0

def bookTotal (portfolio : BacktestPortfolio) : ℚ :=
  portfolio.positions.total (fun _symbol pos => bookValue pos)

theorem afterFill_bookTotal (portfolio : BacktestPortfolio) (fill : TradeFill) :
    (portfolio.afterFill fill).cash + bookTotal (portfolio.afterFill fill) +
        openingFee portfolio fill =
      portfolio.cash + bookTotal portfolio := by
  by_cases oversells : Oversells (portfolio.positionFor fill) fill
  · have noFee : openingFee portfolio fill = 0 := by
      obtain ⟨sell, long, _⟩ := oversells
      simp [openingFee, OpensOrAdds, sell, long]
    rw [afterFill, applyFill_of_oversells oversells, noFee, add_zero]
  · have nothing : bookValue (newPosition portfolio.product fill) = 0 := by
      simp [bookValue, newPosition]
    have replaced := afterFill_total (fun _symbol pos => bookValue pos) nothing oversells
    have moved := afterPosition_bookValue (portfolio.positionFor fill) fill
    have cash : (portfolio.afterFill fill).cash = portfolio.cash + cashFlow fill := by
      rw [afterFill, applyFill_of_accepted oversells]
      rfl
    rw [cash]
    simp only [bookTotal, openingFee] at replaced ⊢
    linarith

/-! ### Runs of fills -/

/-- Every position is what the fills of its symbol say, and a symbol without a position
has no window. -/
def SoundBook (portfolio : BacktestPortfolio) : Prop :=
  ∀ symbol,
    match portfolio.positions.get? symbol with
    | some pos => SoundPosition pos (symbolWindow portfolio.fills symbol)
    | none => symbolWindow portfolio.fills symbol = (0, [])

theorem SoundBook.positionFor (sound : SoundBook portfolio) (fill : TradeFill) :
    SoundPosition (portfolio.positionFor fill) (symbolWindow portfolio.fills fill.symbol) := by
  have atSymbol := sound fill.symbol
  unfold BacktestPortfolio.positionFor
  cases held : portfolio.positions.get? fill.symbol with
  | some pos =>
      rw [held] at atSymbol
      exact atSymbol
  | none =>
      rw [held] at atSymbol
      rw [atSymbol]
      exact
        { quantity := rfl
          flat := fun _closed => rfl
          positive := fun isOpen => absurd rfl isOpen
          within := fun isOpen => absurd rfl isOpen }

theorem SoundBook.afterFill (sound : SoundBook portfolio) (fill : TradeFill) :
    SoundBook (portfolio.afterFill fill) := by
  by_cases oversells : Oversells (portfolio.positionFor fill) fill
  · rw [BacktestPortfolio.afterFill, applyFill_of_oversells oversells]
    exact sound
  · have fills : (portfolio.setDefault fill).fills = portfolio.fills := by
      unfold setDefault
      cases portfolio.positions.get? fill.symbol <;> rfl
    rw [BacktestPortfolio.afterFill, applyFill_of_accepted oversells]
    intro symbol
    simp only [book, fills]
    rw [OrderedDict.get?_insert, setDefault_get?, symbolWindow_append]
    by_cases same : symbol = fill.symbol
    · simp only [if_pos same]
      rw [same]
      exact (sound.positionFor fill).afterPosition oversells
    · simp only [if_neg same]
      exact sound symbol

theorem run_soundBook (fills : List TradeFill) (sound : SoundBook portfolio) :
    SoundBook (run afterFill portfolio fills) :=
  run_invariant SoundBook (fun _portfolio fill _allowed sound => sound.afterFill fill)
    (admissible_of_forall (fun _portfolio _fill => trivial) portfolio fills) sound

def acceptedFills (portfolio : BacktestPortfolio) : List TradeFill → List TradeFill
  | [] => []
  | fill :: rest =>
      match (portfolio.applyFill fill).1 with
      | .ok () => fill :: acceptedFills (portfolio.afterFill fill) rest
      | .error _ => acceptedFills (portfolio.afterFill fill) rest

theorem run_fills (portfolio : BacktestPortfolio) (fills : List TradeFill) :
    (run afterFill portfolio fills).fills = portfolio.fills ++ acceptedFills portfolio fills := by
  induction fills generalizing portfolio with
  | nil => exact (List.append_nil _).symm
  | cons fill rest ih =>
      rw [run_cons, ih, acceptedFills]
      by_cases oversells : Oversells (portfolio.positionFor fill) fill
      · rw [afterFill, applyFill_of_oversells oversells]
      · have stored : ((portfolio.setDefault fill).book fill
            (afterPosition (portfolio.positionFor fill) fill)
            (portfolio.cash + cashFlow fill)).fills = portfolio.fills ++ [fill] := by
          unfold book setDefault
          cases portfolio.positions.get? fill.symbol <;> rfl
        rw [afterFill, applyFill_of_accepted oversells]
        dsimp only
        rw [stored, List.append_assoc]
        rfl

/-- The fees of the fills of a flat or same-side position along a run. -/
def openingFees (portfolio : BacktestPortfolio) : List TradeFill → ℚ
  | [] => 0
  | fill :: rest => openingFee portfolio fill + openingFees (portfolio.afterFill fill) rest

theorem run_bookTotal (portfolio : BacktestPortfolio) (fills : List TradeFill) :
    (run afterFill portfolio fills).cash + bookTotal (run afterFill portfolio fills) +
        openingFees portfolio fills =
      portfolio.cash + bookTotal portfolio := by
  induction fills generalizing portfolio with
  | nil => simp [openingFees]
  | cons fill rest ih =>
      have later := ih (portfolio.afterFill fill)
      have first := afterFill_bookTotal portfolio fill
      rw [run_cons, openingFees]
      linarith

/-! ### The accounting identity -/

/-- A price for every open position. -/
def PricesCover (latestPrices : OrderedDict String ℚ) (portfolio : BacktestPortfolio) : Prop :=
  ∀ symbol pos, portfolio.positions.get? symbol = some pos → pos.quantity ≠ 0 →
    symbol ∈ latestPrices.keys

def priceOf (latestPrices : OrderedDict String ℚ) (symbol : String) : ℚ :=
  (latestPrices.get? symbol).getD 0

def realizedTotal (portfolio : BacktestPortfolio) : ℚ :=
  portfolio.positions.total (fun _symbol pos => pos.realizedPnl)

def openGain (portfolio : BacktestPortfolio) (latestPrices : OrderedDict String ℚ) : ℚ :=
  portfolio.positions.total (fun symbol pos =>
    pos.quantity * (priceOf latestPrices symbol - pos.averagePrice))

theorem totalEquity_eq (latestPrices : OrderedDict String ℚ)
    (covered : PricesCover latestPrices portfolio) :
    portfolio.totalEquity latestPrices =
      portfolio.cash + bookTotal portfolio + realizedTotal portfolio +
        openGain portfolio latestPrices := by
  unfold totalEquity bookTotal realizedTotal openGain
  rw [add_assoc, add_assoc, ← OrderedDict.total_add, ← OrderedDict.total_add]
  congr 1
  apply OrderedDict.total_congr
  intro symbol pos held
  by_cases flat : pos.quantity = 0
  · simp [flat, bookValue]
  · have member := covered symbol pos held flat
    have priced : (latestPrices.get? symbol).getD pos.averagePrice =
        priceOf latestPrices symbol := by
      unfold priceOf
      cases found : latestPrices.get? symbol with
      | none => exact absurd member (OrderedDict.get?_eq_none_iff.mp found)
      | some price => rfl
    rw [if_pos flat, priced, bookValue]
    ring

theorem new_eq_ok {initialCash : ℚ} {product : ProductType} {start : BacktestPortfolio}
    (created : new initialCash product = .ok start) :
    start.cash = initialCash ∧ start.positions = OrderedDict.empty ∧ start.fills = [] := by
  unfold new at created
  split_ifs at created
  cases created
  exact ⟨rfl, rfl, rfl⟩

theorem rejected_unchanged {refusal : InsufficientPosition}
    (rejected : (portfolio.applyFill fill).1 = .error refusal) :
    portfolio.afterFill fill = portfolio := by
  by_cases oversells : Oversells (portfolio.positionFor fill) fill
  · rw [afterFill, applyFill_of_oversells oversells]
  · rw [applyFill_of_accepted oversells] at rejected
    cases rejected

/-- Equity of a backtest portfolio after any fills, its quantities and its average
prices. -/
theorem portfolio_accounting {initialCash : ℚ} {product : ProductType}
    {start : BacktestPortfolio} (created : new initialCash product = .ok start)
    (fills : List TradeFill) (latestPrices : OrderedDict String ℚ)
    (covered : PricesCover latestPrices (run afterFill start fills)) :
    (run afterFill start fills).totalEquity latestPrices =
        initialCash + realizedTotal (run afterFill start fills) +
          openGain (run afterFill start fills) latestPrices - openingFees start fills ∧
      (∀ symbol pos, (run afterFill start fills).positions.get? symbol = some pos →
        pos.quantity = (((acceptedFills start fills).filter
          (fun fill => fill.symbol = symbol)).map signedQuantity).sum ∧
        (pos.averagePrice = 0 ↔ pos.quantity = 0) ∧
        (pos.quantity ≠ 0 →
          Within (symbolWindow (acceptedFills start fills) symbol).2 pos.averagePrice)) ∧
      ∀ (portfolio : BacktestPortfolio) (fill : TradeFill) (refusal : InsufficientPosition),
        (portfolio.applyFill fill).1 = .error refusal → portfolio.afterFill fill = portfolio := by
  obtain ⟨cash, noPositions, noFills⟩ := new_eq_ok created
  refine ⟨?_, ?_, fun _portfolio _fill _refusal rejected => rejected_unchanged rejected⟩
  · have conserved := run_bookTotal start fills
    have empty : bookTotal start = 0 := by
      rw [bookTotal, noPositions]
      rfl
    rw [totalEquity_eq latestPrices covered]
    rw [cash, empty] at conserved
    linarith
  · intro symbol pos held
    have initial : SoundBook start := by
      intro symbol
      rw [noPositions, noFills]
      exact rfl
    have sound := run_soundBook fills initial symbol
    rw [held, run_fills, noFills, List.nil_append] at sound
    refine ⟨?_, sound.averagePrice_eq_zero_iff, sound.within⟩
    rw [sound.quantity, symbolWindow_quantity]

/-! ### A short position that turns long -/

def sampleFill (side : Side) (quantity : ℕ) (quantity_pos : 0 < quantity) : TradeFill :=
  { fillId := "F1"
    symbol := "INFY"
    exchange := .nse
    side := side
    quantity := quantity
    price := 100
    fees := 5
    timestamp := 0
    quantity_pos := quantity_pos
    price_pos := Nat.ofNat_pos
    fees_nonneg := Nat.ofNat_nonneg' 5 }

def turningFills : List TradeFill :=
  [sampleFill .sell 2 (Nat.succ_pos 1), sampleFill .buy 3 (Nat.succ_pos 2)]

def turningStart : BacktestPortfolio :=
  { cash := 1000
    product := .mis
    positions := OrderedDict.empty
    fills := []
    equityCurve := []
    totalFees := 0 }

def turningPrices : OrderedDict String ℚ :=
  OrderedDict.empty.insert "INFY" 110

theorem portfolio_accounting_of_turn :
    (run afterFill turningStart turningFills).totalEquity turningPrices =
      1000 + realizedTotal (run afterFill turningStart turningFills) +
        openGain (run afterFill turningStart turningFills) turningPrices -
          openingFees turningStart turningFills := by
  have created : new 1000 .mis = .ok turningStart := if_neg (by norm_num)
  have traded : (run afterFill turningStart turningFills).positions.keys = ["INFY"] := by
    rfl
  have covered : PricesCover turningPrices (run afterFill turningStart turningFills) := by
    intro symbol pos held _open
    have member := OrderedDict.mem_keys_of_mem (OrderedDict.get?_eq_some_iff.mp held)
    rw [traded] at member
    exact member
  exact (portfolio_accounting created turningFills turningPrices covered).1

end TradingEngine.Backtest
