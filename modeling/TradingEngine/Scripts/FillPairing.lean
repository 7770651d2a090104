/-
The round trips of the report analysis.

A sell takes shares from the oldest open buys of its symbol, splitting the last of them, and
closes one trade.  Each symbol's queue is a stock that is used first in, first out.
-/

import Mathlib.Tactic.FieldSimp
import Mathlib.Tactic.Linarith
import Mathlib.Tactic.Ring
import TradingEngine.General.FifoLots
import TradingEngine.General.OrderedDict
import TradingEngine.Strategies.Signals

namespace TradingEngine.Scripts

open EventRun FifoLots
open Signals (Side)

/-! ### `pair_fills` -/

/-- A fill of a saved report, with timestamps in `T`. -/
structure ReportFill (T : Type) where
  symbol : String
  side : Side
  quantity : ℕ
  quantity_pos : 0 < quantity
  price : ℚ
  fees : ℚ
  timestamp : T
  exitReason : Option String

inductive TradeSide where
  | long
  | short
deriving DecidableEq

structure PairedTrade (T : Type) where
  symbol : String
  side : TradeSide
  entryTime : T
  exitTime : T
  entryPrice : ℚ
  exitPrice : ℚ
  quantity : ℕ
  grossPnl : ℚ
  entryFees : ℚ
  exitFees : ℚ
  totalFees : ℚ
  netPnl : ℚ

/-- The variables of the inner loop. -/
structure Matching (T : Type) where
  remaining : ℕ
  cost : ℚ
  entryFees : ℚ
  entryTime : T
  newQueue : List (ReportFill T)

variable {T : Type}

/-- The part of a buy that stays open, with its share of the fees. -/
def leftoverBuy (buy : ReportFill T) (leftover : ℕ) (some_left : 0 < leftover) : ReportFill T :=
  { buy with
    quantity := leftover
    quantity_pos := some_left
    fees := buy.fees * leftover / buy.quantity }

def matchBuy (matching : Matching T) (buy : ReportFill T) : Matching T :=
  if matching.remaining = 0 then
    { matching with newQueue := matching.newQueue ++ [buy] }
  else
    let used := min buy.quantity matching.remaining
    { remaining := matching.remaining - used
      cost := matching.cost + used * buy.price
      entryFees := matching.entryFees + buy.fees * used / buy.quantity
      entryTime := buy.timestamp
      newQueue :=
        if some_left : 0 < buy.quantity - used then
          matching.newQueue ++ [leftoverBuy buy (buy.quantity - used) some_left]
        else matching.newQueue }

def matchQueue (fill : ReportFill T) (queue : List (ReportFill T)) : Matching T :=
  queue.foldl matchBuy
    { remaining := fill.quantity
      cost := 0
      entryFees := 0
      entryTime := fill.timestamp
      newQueue := [] }

def closeTrade (fill : ReportFill T) (matching : Matching T) : PairedTrade T :=
  let revenue := fill.quantity * fill.price
  let gross := revenue - matching.cost
  let totalFees := matching.entryFees + fill.fees
  { symbol := fill.symbol
    side := .long
    entryTime := matching.entryTime
    exitTime := fill.timestamp
    entryPrice := if fill.quantity ≠ 0 then matching.cost / fill.quantity else 0
    exitPrice := fill.price
    quantity := fill.quantity
    grossPnl := gross
    entryFees := matching.entryFees
    exitFees := fill.fees
    totalFees := totalFees
    netPnl := gross - totalFees }

structure Pairing (T : Type) where
  buyQueue : OrderedDict String (List (ReportFill T))
  trades : List (PairedTrade T)

/-- `buy_queue[symbol]` of a `defaultdict(list)`. -/
def Pairing.queue (pairing : Pairing T) (symbol : String) : List (ReportFill T) :=
  (pairing.buyQueue.get? symbol).getD []

def pairFill (pairing : Pairing T) (fill : ReportFill T) : Pairing T :=
  let queue := pairing.queue fill.symbol
  match fill.side with
  | .buy => { pairing with buyQueue := pairing.buyQueue.insert fill.symbol (queue ++ [fill]) }
  | .sell =>
      let matching := matchQueue fill queue
      { buyQueue := pairing.buyQueue.insert fill.symbol matching.newQueue
        trades := pairing.trades ++ [closeTrade fill matching] }

def noPairs : Pairing T :=
  { buyQueue := OrderedDict.empty
    trades := [] }

/-- The queues and the trades after all fills. -/
def pairing (fills : List (ReportFill T)) : Pairing T :=
  run pairFill noPairs fills

def pairFills (fills : List (ReportFill T)) : List (PairedTrade T) :=
  (pairing fills).trades

/-! ### The queues as stocks -/

/-- What one share of a buy costs, and its share of the fees. -/
def ReportFill.perShare (fill : ReportFill T) : ℚ × ℚ :=
  (fill.price, fill.fees / fill.quantity)

/-- The moves of the stock of each symbol. -/
def reportMoves : Moves (ReportFill T) String (ℚ × ℚ) :=
  { key := ReportFill.symbol
    sells := fun fill => fill.side = .sell
    quantity := ReportFill.quantity
    label := ReportFill.perShare }

def shares (lots : List (ReportFill T)) : List (ℚ × ℚ) :=
  units ReportFill.quantity ReportFill.perShare lots

def Pairing.stock (pairing : Pairing T) (symbol : String) : List (ℚ × ℚ) :=
  shares (pairing.queue symbol)

def Matching.charge (matching : Matching T) : ℚ × ℚ :=
  (matching.cost, matching.entryFees)

theorem perShare_leftoverBuy (buy : ReportFill T) (leftover : ℕ) (some_left : 0 < leftover) :
    (leftoverBuy buy leftover some_left).perShare = buy.perShare := by
  have left : (leftover : ℚ) ≠ 0 := by exact_mod_cast some_left.ne'
  have whole : (buy.quantity : ℚ) ≠ 0 := by exact_mod_cast buy.quantity_pos.ne'
  refine Prod.ext rfl ?_
  change buy.fees * leftover / buy.quantity / leftover = buy.fees / buy.quantity
  field_simp

theorem matchBuy_spec (matching : Matching T) (buy : ReportFill T) :
    (matchBuy matching buy).remaining = matching.remaining - buy.quantity ∧
      (matchBuy matching buy).charge =
        matching.charge + min matching.remaining buy.quantity • buy.perShare ∧
      shares (matchBuy matching buy).newQueue = shares matching.newQueue ++
        List.replicate (buy.quantity - matching.remaining) buy.perShare := by
  unfold matchBuy
  by_cases done : matching.remaining = 0
  · rw [if_pos done]
    simp [done, Matching.charge, shares, units]
  · rw [if_neg done]
    have used : min matching.remaining buy.quantity = min buy.quantity matching.remaining :=
      min_comm _ _
    refine ⟨by dsimp only; omega, ?_, ?_⟩
    · refine Prod.ext ?_ ?_
      · rw [Prod.fst_add, Prod.smul_fst, nsmul_eq_mul, used]
        rfl
      · rw [Prod.snd_add, Prod.smul_snd, nsmul_eq_mul, used]
        simp only [Matching.charge, ReportFill.perShare]
        ring
    · dsimp only
      have left : buy.quantity - min buy.quantity matching.remaining =
          buy.quantity - matching.remaining := by omega
      split_ifs with some_left
      · rw [left] at some_left
        simp only [left]
        rw [shares, units_append, ← perShare_leftoverBuy buy _ some_left]
        simp [shares, units, leftoverBuy]
      · rw [← left, Nat.eq_zero_of_not_pos some_left, List.replicate_zero, List.append_nil]

theorem foldl_matchBuy (queue : List (ReportFill T)) (matching : Matching T) :
    (queue.foldl matchBuy matching).charge =
        matching.charge + ((shares queue).take matching.remaining).sum ∧
      shares (queue.foldl matchBuy matching).newQueue =
        shares matching.newQueue ++ (shares queue).drop matching.remaining := by
  induction queue generalizing matching with
  | nil => simp [shares, units]
  | cons buy rest ih =>
      obtain ⟨remaining, charge, open_still⟩ := matchBuy_spec matching buy
      obtain ⟨charged, left⟩ := ih (matchBuy matching buy)
      have taken : (shares (buy :: rest)).take matching.remaining = _ := take_units_cons
      have dropped : (shares (buy :: rest)).drop matching.remaining = _ := drop_units_cons
      rw [List.foldl_cons, charged, left, remaining, charge, open_still, taken, dropped]
      constructor
      · rw [List.sum_append, List.sum_replicate, add_assoc]
        rfl
      · rw [List.append_assoc]
        rfl

theorem matchQueue_spec (fill : ReportFill T) (queue : List (ReportFill T)) :
    (matchQueue fill queue).charge = ((shares queue).take fill.quantity).sum ∧
      shares (matchQueue fill queue).newQueue = (shares queue).drop fill.quantity := by
  obtain ⟨charged, left⟩ := foldl_matchBuy queue
    { remaining := fill.quantity
      cost := 0
      entryFees := 0
      entryTime := fill.timestamp
      newQueue := [] }
  refine ⟨?_, left⟩
  rw [matchQueue, charged]
  exact zero_add _

/-! ### The pairing refines the stocks -/

theorem queue_insert {pairing : Pairing T} {symbol other : String}
    {queue : List (ReportFill T)} {trades : List (PairedTrade T)} :
    Pairing.queue { buyQueue := pairing.buyQueue.insert symbol queue, trades := trades } other =
      if other = symbol then queue else pairing.queue other :=
  OrderedDict.getD_get?_insert _ _ _ _ _

theorem stock_insert {pairing : Pairing T} {symbol : String} {queue : List (ReportFill T)}
    {trades : List (PairedTrade T)} :
    Pairing.stock { buyQueue := pairing.buyQueue.insert symbol queue, trades := trades } =
      Function.update pairing.stock symbol (shares queue) := by
  funext other
  rw [Function.update_apply, Pairing.stock, queue_insert]
  split_ifs <;> rfl

theorem pairFill_spec (pairing : Pairing T) (fill : ReportFill T) :
    (pairFill pairing fill).stock = reportMoves.restock pairing.stock fill ∧
      (pairFill pairing fill).trades = pairing.trades ++
        (if fill.side = .sell then
          [closeTrade fill (matchQueue fill (pairing.queue fill.symbol))] else []) ∧
      (fill.side = .sell →
        (matchQueue fill (pairing.queue fill.symbol)).charge =
          (reportMoves.consumed pairing.stock fill).sum) := by
  obtain ⟨charged, left⟩ := matchQueue_spec fill (pairing.queue fill.symbol)
  cases side : fill.side with
  | buy =>
      have buying : reportMoves.sells fill = false := by simp [reportMoves, side]
      have appended : shares (pairing.queue fill.symbol ++ [fill]) =
          pairing.stock fill.symbol ++ List.replicate fill.quantity fill.perShare := by
        simp [shares, units, Pairing.stock]
      refine ⟨?_, ?_, Side.noConfusion⟩
      · unfold pairFill
        rw [side, stock_insert, appended, Moves.restock, buying]
        rfl
      · simp [pairFill, side]
  | sell =>
      have selling : reportMoves.sells fill = true := by simp [reportMoves, side]
      refine ⟨?_, ?_, fun _ => ?_⟩
      · unfold pairFill
        rw [side, stock_insert, left, Moves.restock, selling]
        rfl
      · simp [pairFill, side]
      · rw [charged, Moves.consumed, if_pos selling]
        rfl

/-! ### Totals of a symbol -/

def tradeTotal {M : Type} [AddCommMonoid M] (trades : List (PairedTrade T)) (symbol : String)
    (value : PairedTrade T → M) : M :=
  ((trades.filter (fun trade => trade.symbol = symbol)).map value).sum

/-- What a trade was charged, in cost and in entry fees. -/
def PairedTrade.charge (trade : PairedTrade T) : ℚ × ℚ :=
  (trade.quantity * trade.exitPrice - trade.grossPnl, trade.entryFees)

theorem charge_closeTrade (fill : ReportFill T) (matching : Matching T) :
    (closeTrade fill matching).charge = matching.charge :=
  Prod.ext (sub_sub_cancel _ _) rfl

theorem tradeTotal_append {M : Type} [AddCommMonoid M] (first second : List (PairedTrade T))
    (symbol : String) (value : PairedTrade T → M) :
    tradeTotal (first ++ second) symbol value =
      tradeTotal first symbol value + tradeTotal second symbol value := by
  rw [tradeTotal, List.filter_append, List.map_append, List.sum_append]
  rfl

theorem tradeTotal_closeTrade {M : Type} [AddCommMonoid M] (fill : ReportFill T)
    (matching : Matching T) (symbol : String) (value : PairedTrade T → M) :
    tradeTotal [closeTrade fill matching] symbol value =
      if fill.symbol = symbol then value (closeTrade fill matching) else 0 := by
  have own : (closeTrade fill matching).symbol = fill.symbol := rfl
  by_cases same : fill.symbol = symbol
  · simp [tradeTotal, own, same]
  · simp [tradeTotal, own, same]

theorem run_stock (pairing : Pairing T) (fills : List (ReportFill T)) :
    (run pairFill pairing fills).stock = run reportMoves.restock pairing.stock fills :=
  run_simulation (fun pairing stock => Pairing.stock pairing = stock)
    (fun pairing _stock fill _allowed same => same ▸ (pairFill_spec pairing fill).1)
    (admissible_of_forall (fun _stock _fill => trivial) _ fills) rfl

theorem run_charges (pairing : Pairing T) (fills : List (ReportFill T)) (symbol : String) :
    tradeTotal (run pairFill pairing fills).trades symbol PairedTrade.charge =
      tradeTotal pairing.trades symbol PairedTrade.charge +
        (reportMoves.consumedBy symbol pairing.stock fills).sum := by
  induction fills generalizing pairing with
  | nil => exact (add_zero _).symm
  | cons fill rest ih =>
      obtain ⟨stocked, traded, charged⟩ := pairFill_spec pairing fill
      rw [run_cons, ih (pairFill pairing fill), stocked, traded, Moves.consumedBy,
        List.sum_append, tradeTotal_append, add_assoc]
      congr 2
      cases side : fill.side with
      | buy => simp [tradeTotal, Moves.consumed, reportMoves, side]
      | sell =>
          rw [if_pos rfl, tradeTotal_closeTrade, charge_closeTrade, charged side]
          split_ifs with same other other
          · rfl
          · exact absurd same other
          · exact absurd other same
          · rfl

theorem run_exits {M : Type} [AddCommMonoid M] (pairing : Pairing T)
    (fills : List (ReportFill T)) (symbol : String) (value : PairedTrade T → M)
    (ofSell : ReportFill T → M)
    (same : ∀ fill matching, value (closeTrade fill matching) = ofSell fill) :
    tradeTotal (run pairFill pairing fills).trades symbol value =
      tradeTotal pairing.trades symbol value +
        ((reportMoves.sellsOf fills symbol).map ofSell).sum := by
  induction fills generalizing pairing with
  | nil => exact (add_zero _).symm
  | cons fill rest ih =>
      obtain ⟨_stocked, traded, _charged⟩ := pairFill_spec pairing fill
      rw [run_cons, ih, traded, tradeTotal_append, add_assoc]
      congr 1
      cases side : fill.side with
      | buy => simp [tradeTotal, Moves.sellsOf, reportMoves, side]
      | sell =>
          rw [if_pos rfl, tradeTotal_closeTrade, same]
          by_cases here : fill.symbol = symbol
          · simp [Moves.sellsOf, reportMoves, side, here]
          · simp [Moves.sellsOf, reportMoves, here]

theorem trades_symbol (pairing : Pairing T) (fills : List (ReportFill T)) (trade : PairedTrade T)
    (member : trade ∈ (run pairFill pairing fills).trades) :
    trade ∈ pairing.trades ∨
      ∃ fill ∈ fills, ∃ matching, trade = closeTrade fill matching := by
  induction fills generalizing pairing with
  | nil => exact Or.inl member
  | cons fill rest ih =>
      obtain ⟨_stocked, traded, _charged⟩ := pairFill_spec pairing fill
      rcases ih _ member with earlier | ⟨later, listed, matching, closed⟩
      · rw [traded] at earlier
        split_ifs at earlier with selling
        · rcases List.mem_append.mp earlier with old | new
          · exact Or.inl old
          · exact Or.inr ⟨fill, List.mem_cons_self, _, List.mem_singleton.mp new⟩
        · exact Or.inl (by simpa using earlier)
      · exact Or.inr ⟨later, List.mem_cons_of_mem _ listed, matching, closed⟩

/-! ### Conservation -/

/-- Sells never exceed what is held. -/
def NeverOversells (fills : List (ReportFill T)) : Prop :=
  reportMoves.NeverOversells (fun _ => 0) fills

instance (fills : List (ReportFill T)) : Decidable (NeverOversells fills) :=
  inferInstanceAs (Decidable (reportMoves.NeverOversells _ fills))

def boughtQuantity (fills : List (ReportFill T)) (symbol : String) : ℕ :=
  ((reportMoves.buysOf fills symbol).map ReportFill.quantity).sum

def buyFees (fills : List (ReportFill T)) (symbol : String) : ℚ :=
  ((reportMoves.buysOf fills symbol).map ReportFill.fees).sum

def ReportFill.value (fill : ReportFill T) : ℚ :=
  fill.quantity * fill.price

def sellValue (fills : List (ReportFill T)) (symbol : String) : ℚ :=
  ((reportMoves.sellsOf fills symbol).map ReportFill.value).sum

/-- What the shares that were sold had cost, oldest first. -/
def fifoCost (fills : List (ReportFill T)) (symbol : String) : ℚ :=
  ((units ReportFill.quantity ReportFill.price (reportMoves.buysOf fills symbol)).take
    (reportMoves.sold fills symbol)).sum

/-- Nothing of a symbol is lost or counted twice. -/
structure Conserved (fills : List (ReportFill T)) (symbol : String) : Prop where
  quantity : boughtQuantity fills symbol =
    tradeTotal (pairFills fills) symbol PairedTrade.quantity +
      (((pairing fills).queue symbol).map ReportFill.quantity).sum
  fees : buyFees fills symbol =
    tradeTotal (pairFills fills) symbol PairedTrade.entryFees +
      (((pairing fills).queue symbol).map ReportFill.fees).sum
  gross : tradeTotal (pairFills fills) symbol PairedTrade.grossPnl =
    sellValue fills symbol - fifoCost fills symbol

theorem snd_sum_shares (lots : List (ReportFill T)) :
    (shares lots).sum.2 = (lots.map ReportFill.fees).sum := by
  induction lots with
  | nil => rfl
  | cons lot rest ih =>
      have whole : (lot.quantity : ℚ) ≠ 0 := by exact_mod_cast lot.quantity_pos.ne'
      have first : shares (lot :: rest) = List.replicate lot.quantity lot.perShare ++ shares rest :=
        units_cons
      rw [first, List.sum_append, List.sum_replicate, Prod.snd_add, ih, List.map_cons,
        List.sum_cons, Prod.smul_snd, nsmul_eq_mul, ReportFill.perShare, mul_div_cancel₀ _ whole]

theorem fst_sum_take (fills : List (ReportFill T)) (symbol : String) :
    ((reportMoves.bought fills symbol).take (reportMoves.sold fills symbol)).sum.1 =
      fifoCost fills symbol := by
  have prices : (reportMoves.bought fills symbol).map Prod.fst =
      units ReportFill.quantity ReportFill.price (reportMoves.buysOf fills symbol) :=
    map_units Prod.fst
  rw [fifoCost, ← prices, ← List.map_take]
  exact map_list_sum (AddMonoidHom.fst ℚ ℚ) _

theorem pairing_spec {fills : List (ReportFill T)} (covered : NeverOversells fills)
    (symbol : String) :
    tradeTotal (pairFills fills) symbol PairedTrade.charge =
        ((reportMoves.bought fills symbol).take (reportMoves.sold fills symbol)).sum ∧
      shares ((pairing fills).queue symbol) =
        (reportMoves.bought fills symbol).drop (reportMoves.sold fills symbol) := by
  have charges := run_charges noPairs fills symbol
  have stocks := run_stock noPairs fills
  obtain ⟨taken, left⟩ := Moves.consumedBy_eq_of_empty symbol covered
  have empty : (noPairs : Pairing T).stock = fun _ => [] := rfl
  rw [empty] at charges stocks
  constructor
  · rw [pairFills, pairing, charges, taken]
    exact zero_add _
  · rw [← left, ← stocks]
    rfl

theorem tradeTotal_of_sells {M : Type} [AddCommMonoid M] (fills : List (ReportFill T))
    (symbol : String) (value : PairedTrade T → M) (ofSell : ReportFill T → M)
    (same : ∀ fill matching, value (closeTrade fill matching) = ofSell fill) :
    tradeTotal (pairFills fills) symbol value =
      ((reportMoves.sellsOf fills symbol).map ofSell).sum :=
  (run_exits noPairs fills symbol value ofSell same).trans (zero_add _)

theorem tradeTotal_charge (trades : List (PairedTrade T)) (symbol : String) :
    (tradeTotal trades symbol PairedTrade.charge).2 =
        tradeTotal trades symbol PairedTrade.entryFees ∧
      (tradeTotal trades symbol PairedTrade.charge).1 +
          tradeTotal trades symbol PairedTrade.grossPnl =
        tradeTotal trades symbol (fun trade => trade.quantity * trade.exitPrice) := by
  unfold tradeTotal
  generalize trades.filter (fun trade => trade.symbol = symbol) = chosen
  induction chosen with
  | nil => exact ⟨rfl, add_zero _⟩
  | cons trade rest ih =>
      obtain ⟨fees, money⟩ := ih
      simp only [List.map_cons, List.sum_cons, Prod.snd_add, Prod.fst_add, fees, ← money,
        PairedTrade.charge, true_and]
      ring

theorem pairFills_conserved {fills : List (ReportFill T)} (covered : NeverOversells fills)
    (symbol : String) : Conserved fills symbol := by
  obtain ⟨charged, left⟩ := pairing_spec covered symbol
  obtain ⟨fees, money⟩ := tradeTotal_charge (pairFills fills) symbol
  have bounded := Moves.sold_le_bought symbol covered
  have total := List.sum_take_add_sum_drop (reportMoves.bought fills symbol)
    (reportMoves.sold fills symbol)
  exact
    { quantity := by
        have lengths := congrArg List.length left
        have all : (reportMoves.bought fills symbol).length = boughtQuantity fills symbol :=
          length_units
        have open_still : (shares ((pairing fills).queue symbol)).length =
            (((pairing fills).queue symbol).map ReportFill.quantity).sum := length_units
        have traded : tradeTotal (pairFills fills) symbol PairedTrade.quantity =
            reportMoves.sold fills symbol :=
          tradeTotal_of_sells fills symbol _ _ fun _fill _matching => rfl
        rw [List.length_drop] at lengths
        omega
      fees := by
        have all : buyFees fills symbol = (reportMoves.bought fills symbol).sum.2 :=
          (snd_sum_shares _).symm
        rw [all, ← total, ← charged, ← left, Prod.snd_add, fees, snd_sum_shares]
      gross := by
        have value : tradeTotal (pairFills fills) symbol
            (fun trade => trade.quantity * trade.exitPrice) = sellValue fills symbol :=
          tradeTotal_of_sells fills symbol _ _ fun _fill _matching => rfl
        rw [← value, ← money, charged, fst_sum_take]
        ring }

theorem sum_tradeTotal {M : Type} [AddCommMonoid M] (fills : List (ReportFill T))
    (value : PairedTrade T → M) :
    ∑ symbol ∈ (fills.map ReportFill.symbol).toFinset,
        tradeTotal (pairFills fills) symbol value = ((pairFills fills).map value).sum := by
  refine sum_by_key PairedTrade.symbol value _ fun trade member => ?_
  rcases trades_symbol noPairs fills trade member with none | ⟨fill, listed, matching, rfl⟩
  · cases none
  · exact List.mem_toFinset.mpr (List.mem_map.mpr ⟨fill, listed, rfl⟩)

theorem sum_grossPnl {fills : List (ReportFill T)} (covered : NeverOversells fills) :
    ((pairFills fills).map PairedTrade.grossPnl).sum =
      ((fills.filter (fun fill => fill.side = .sell)).map ReportFill.value).sum -
        ∑ symbol ∈ (fills.map ReportFill.symbol).toFinset, fifoCost fills symbol := by
  have sells : ∑ symbol ∈ (fills.map ReportFill.symbol).toFinset, sellValue fills symbol =
      ((fills.filter (fun fill => fill.side = .sell)).map ReportFill.value).sum := by
    have all := Moves.sum_sellsOf reportMoves fills ReportFill.value
    simpa [reportMoves, sellValue] using all
  rw [← sum_tradeTotal, ← sells, ← Finset.sum_sub_distrib]
  exact Finset.sum_congr rfl fun symbol _listed => (pairFills_conserved covered symbol).gross

/-- Pairing conserves quantities, fees and money. -/
theorem pairFills_conserves {fills : List (ReportFill T)} (covered : NeverOversells fills) :
    (∀ symbol, Conserved fills symbol) ∧
      ((pairFills fills).map PairedTrade.grossPnl).sum =
        ((fills.filter (fun fill => fill.side = .sell)).map ReportFill.value).sum -
          ∑ symbol ∈ (fills.map ReportFill.symbol).toFinset, fifoCost fills symbol ∧
      ∀ trade ∈ pairFills fills, trade.netPnl + trade.totalFees = trade.grossPnl := by
  refine ⟨pairFills_conserved covered, sum_grossPnl covered, fun trade member => ?_⟩
  rcases trades_symbol noPairs fills trade member with none | ⟨fill, _listed, matching, rfl⟩
  · cases none
  · exact sub_add_cancel _ _

/-! ### Two buys sold in three parts -/

/-- A fill of at least one share. -/
def reportFill (symbol : String) (side : Side) (quantity : ℕ) (price : ℚ) (timestamp : ℕ) :
    ReportFill ℕ :=
  { symbol := symbol
    side := side
    quantity := max quantity 1
    quantity_pos := lt_max_of_lt_right Nat.one_pos
    price := price
    fees := 6
    timestamp := timestamp
    exitReason := none }

def splitFills : List (ReportFill ℕ) :=
  [reportFill "INFY" .buy 4 100 0, reportFill "TCS" .buy 2 300 1, reportFill "INFY" .buy 6 110 2,
    reportFill "INFY" .sell 3 120 3, reportFill "INFY" .sell 5 105 4,
    reportFill "TCS" .sell 2 310 5]

theorem splitFills_conserves :
    (∀ symbol, Conserved splitFills symbol) ∧
      ((pairFills splitFills).map PairedTrade.grossPnl).sum =
        ((splitFills.filter (fun fill => fill.side = .sell)).map ReportFill.value).sum -
          ∑ symbol ∈ (splitFills.map ReportFill.symbol).toFinset, fifoCost splitFills symbol ∧
      ∀ trade ∈ pairFills splitFills, trade.netPnl + trade.totalFees = trade.grossPnl :=
  pairFills_conserves (by decide)

example : (pairFills splitFills).map PairedTrade.grossPnl = [60, -15, 20] := by decide +kernel

end TradingEngine.Scripts
