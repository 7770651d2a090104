/-
The round trips of the opening-range report.

A sell is matched with the oldest open buy of its symbol, and the trade is booked with the
quantity of the sell; how many shares the buy had is not looked at.  The two report analysers
agree in total exactly where these differences cancel.
-/

import Mathlib.Data.List.Sort
import TradingEngine.General.WholeLots
import TradingEngine.Python
import TradingEngine.Scripts.FillPairing

namespace TradingEngine.Scripts

open EventRun FifoLots
open Signals (Side)

/-! ### `reconstruct_trades` -/

/-- An entry of `open_buys` or `open_sells`. -/
structure OpenLot where
  price : ℚ
  fees : ℚ
  qty : ℕ
  ts : Option Datetime

structure ReconstructedTrade where
  symbol : String
  entryPrice : ℚ
  exitPrice : ℚ
  quantity : ℕ
  grossPnl : ℚ
  fees : ℚ
  netPnl : ℚ
  entryTs : Option Datetime
  exitTs : Option Datetime
  holdingMinutes : Option ℚ
  exitReason : Option String

structure Reconstruction where
  openBuys : OrderedDict String (List OpenLot)
  openSells : OrderedDict String (List OpenLot)
  trades : List ReconstructedTrade

/-- Python's `round` and `datetime.fromisoformat`, `none` where it raises `ValueError`. -/
structure ReportText (T : Type) where
  round : ℚ → ℕ → ℚ
  fromisoformat : T → Option Datetime

variable {T : Type}

namespace ReportText

variable (text : ReportText T)

def openLot (fill : ReportFill T) : OpenLot :=
  { price := fill.price
    fees := fill.fees
    qty := fill.quantity
    ts := text.fromisoformat fill.timestamp }

def closeLot (fill : ReportFill T) (buy : OpenLot) : ReconstructedTrade :=
  let ts := text.fromisoformat fill.timestamp
  let gross := (fill.price - buy.price) * fill.quantity
  let totalFees := fill.fees + buy.fees
  let holding := ts.bind fun exit => buy.ts.map fun entry =>
    ((exit - entry : ℤ) : ℚ) / 1000000 / 60
  { symbol := fill.symbol
    entryPrice := buy.price
    exitPrice := fill.price
    quantity := fill.quantity
    grossPnl := text.round gross 2
    fees := text.round totalFees 2
    netPnl := text.round (gross - totalFees) 2
    entryTs := buy.ts
    exitTs := ts
    holdingMinutes := holding.map fun minutes => text.round minutes 1
    exitReason := fill.exitReason }

def lotsOf (lots : OrderedDict String (List OpenLot)) (symbol : String) : List OpenLot :=
  (lots.get? symbol).getD []

def reconstructFill (state : Reconstruction) (fill : ReportFill T) : Reconstruction :=
  match fill.side with
  | .buy =>
      { state with
        openBuys := state.openBuys.insert fill.symbol
          (lotsOf state.openBuys fill.symbol ++ [text.openLot fill]) }
  | .sell =>
      match lotsOf state.openBuys fill.symbol with
      | buy :: rest =>
          { state with
            openBuys := state.openBuys.insert fill.symbol rest
            trades := state.trades ++ [text.closeLot fill buy] }
      | [] =>
          { state with
            openSells := state.openSells.insert fill.symbol
              (lotsOf state.openSells fill.symbol ++ [text.openLot fill]) }

def nothingOpen : Reconstruction :=
  { openBuys := OrderedDict.empty
    openSells := OrderedDict.empty
    trades := [] }

def unmatchedWarning (lots : OrderedDict String (List OpenLot)) (side other : String) :
    List String :=
  let unmatched := (lots.entries.map (fun entry => entry.2.length)).sum
  if unmatched ≠ 0 then
    [toString unmatched ++ " " ++ side ++ " fill(s) have no matching " ++ other ++
      " — excluded from trades."]
  else []

/-- `sorted(fills, key=timestamp)`, which is stable. -/
def sortedFills [LinearOrder T] (fills : List (ReportFill T)) : List (ReportFill T) :=
  fills.insertionSort (fun earlier later => earlier.timestamp ≤ later.timestamp)

def reconstructTrades [LinearOrder T] (fills : List (ReportFill T)) :
    List ReconstructedTrade × List String :=
  let final := run text.reconstructFill nothingOpen (sortedFills fills)
  (final.trades, unmatchedWarning final.openBuys "BUY" "SELL" ++
    unmatchedWarning final.openSells "SELL" "BUY")

end ReportText

/-! ### The matching of whole lots -/

section Matching

variable {text : ReportText T} {state : Reconstruction} {closings : Closings (ReportFill T)}

/-- The open buys and the trades are those of lots that are closed whole. -/
structure Matches (text : ReportText T) (state : Reconstruction)
    (closings : Closings (ReportFill T)) : Prop where
  opened : ∀ symbol, ReportText.lotsOf state.openBuys symbol =
    (closings.opened.filter (fun lot => lot.symbol = symbol)).map text.openLot
  trades : state.trades =
    closings.closed.map (fun pair => text.closeLot pair.2 (text.openLot pair.1))

theorem lotsOf_insert (lots : OrderedDict String (List OpenLot)) (symbol other : String)
    (changed : List OpenLot) :
    ReportText.lotsOf (lots.insert symbol changed) other =
      if other = symbol then changed else ReportText.lotsOf lots other :=
  OrderedDict.getD_get?_insert _ _ _ _ _

theorem matches_reconstructFill (related : Matches text state closings) (fill : ReportFill T) :
    Matches text (text.reconstructFill state fill) (reportMoves.closeNext closings fill) := by
  cases side : fill.side with
  | buy =>
      have buying : reportMoves.sells fill = false := by simp [reportMoves, side]
      unfold ReportText.reconstructFill Moves.closeNext
      rw [side, buying]
      refine { opened := fun symbol => ?_, trades := related.trades }
      dsimp only
      rw [lotsOf_insert, related.opened, related.opened]
      by_cases same : symbol = fill.symbol
      · simp [same]
      · simp [same, Ne.symm same]
  | sell =>
      have selling : reportMoves.sells fill = true := by simp [reportMoves, side]
      unfold ReportText.reconstructFill Moves.closeNext
      rw [side, selling, if_pos rfl]
      dsimp only
      cases found : closings.opened.find?
          (fun lot => reportMoves.key lot = reportMoves.key fill) with
      | none =>
          have nothing : ReportText.lotsOf state.openBuys fill.symbol = [] := by
            have apart := List.find?_eq_none.mp found
            rw [related.opened, List.map_eq_nil_iff]
            exact List.filter_eq_nil_iff.mpr apart
          rw [nothing]
          exact { opened := related.opened, trades := related.trades }
      | some lot =>
          have lots : ReportText.lotsOf state.openBuys fill.symbol = text.openLot lot :: _ :=
            (related.opened fill.symbol).trans
              (congrArg (List.map text.openLot) (Moves.filter_oldest found))
          rw [lots]
          refine { opened := fun symbol => ?_, trades := by simp [related.trades] }
          dsimp only [Option.elim]
          rw [lotsOf_insert]
          by_cases same : symbol = fill.symbol
          · rw [if_pos same, same]
            rfl
          · rw [if_neg same, related.opened]
            exact congrArg (List.map text.openLot)
              (Moves.filter_erase_of_ne (Ne.symm same) found).symm

theorem matches_run (related : Matches text state closings) (fills : List (ReportFill T)) :
    Matches text (run text.reconstructFill state fills)
      (run reportMoves.closeNext closings fills) :=
  run_simulation (Matches text)
    (fun _state _closings fill _allowed related => matches_reconstructFill related fill)
    (admissible_of_forall (fun _closings _fill => trivial) closings fills) related

end Matching

/-! ### Totals when every symbol ends flat -/

section Totals

variable {fills : List (ReportFill T)}

def EndsFlat (fills : List (ReportFill T)) : Prop :=
  reportMoves.EndsFlat fills

instance (fills : List (ReportFill T)) : Decidable (EndsFlat fills) :=
  inferInstanceAs (Decidable (reportMoves.EndsFlat fills))

/-- What a fill brings in: the value of a sell, less that of a buy. -/
def ReportFill.proceeds (fill : ReportFill T) : ℚ :=
  if fill.side = .sell then fill.value else -fill.value

theorem proceeds_of_buy {fill : ReportFill T} (buying : reportMoves.sells fill = false) :
    fill.proceeds = -fill.value :=
  if_neg (of_decide_eq_false buying)

theorem proceeds_of_sell {fill : ReportFill T} (selling : reportMoves.sells fill = true) :
    fill.proceeds = fill.value :=
  if_pos (of_decide_eq_true selling)

theorem sum_proceeds_of_buys {lots : List (ReportFill T)}
    (buys : ∀ lot ∈ lots, reportMoves.sells lot = false) :
    (lots.map ReportFill.proceeds).sum = -(lots.map ReportFill.value).sum := by
  rw [List.map_congr_left fun lot member => proceeds_of_buy (buys lot member), List.sum_neg,
    List.map_map]
  rfl

theorem sum_proceeds_of_sells {fills : List (ReportFill T)}
    (sells : ∀ fill ∈ fills, reportMoves.sells fill = true) :
    (fills.map ReportFill.proceeds).sum = (fills.map ReportFill.value).sum :=
  congrArg List.sum (List.map_congr_left fun fill member => proceeds_of_sell (sells fill member))

theorem sum_proceeds (fills : List (ReportFill T)) :
    (fills.map ReportFill.proceeds).sum =
      ((fills.filter (fun fill => reportMoves.sells fill = true)).map ReportFill.value).sum -
        ((fills.filter (fun fill => reportMoves.sells fill = false)).map
          ReportFill.value).sum := by
  rw [Moves.sum_sides reportMoves, sum_proceeds_of_buys, sum_proceeds_of_sells, neg_add_eq_sub]
  · exact fun fill member => of_decide_eq_true (List.mem_filter.mp member).2
  · exact fun fill member => of_decide_eq_true (List.mem_filter.mp member).2

/-- What a closing brings in is what its trade books, and what the quantities differ by at the
price of the buy. -/
theorem sum_closed_proceeds {pairs : List (ReportFill T × ReportFill T)}
    (sided : ∀ pair ∈ pairs,
      reportMoves.sells pair.1 = false ∧ reportMoves.sells pair.2 = true) :
    (pairs.map (fun pair => pair.1.proceeds + pair.2.proceeds)).sum =
      (pairs.map (fun pair => (pair.2.price - pair.1.price) * (pair.2.quantity : ℚ))).sum +
        (pairs.map (fun pair =>
          ((pair.2.quantity : ℚ) - pair.1.quantity) * pair.1.price)).sum := by
  rw [← List.sum_map_add]
  refine congrArg List.sum (List.map_congr_left fun pair member => ?_)
  obtain ⟨buy, sell⟩ := sided pair member
  rw [proceeds_of_buy buy, proceeds_of_sell sell, ReportFill.value, ReportFill.value]
  ring

theorem fifoCost_of_flat (flat : EndsFlat fills) {fill : ReportFill T} (member : fill ∈ fills) :
    fifoCost fills fill.symbol =
      ((reportMoves.buysOf fills fill.symbol).map ReportFill.value).sum := by
  have all := Moves.sum_take_sold_of_flat flat member ReportFill.price
  simp only [nsmul_eq_mul] at all
  exact all

theorem queue_of_flat (covered : NeverOversells fills) (flat : EndsFlat fills)
    {fill : ReportFill T} (member : fill ∈ fills) : (pairing fills).queue fill.symbol = [] := by
  have conserved := (pairFills_conserved covered fill.symbol).quantity
  have traded : tradeTotal (pairFills fills) fill.symbol PairedTrade.quantity =
      reportMoves.sold fills fill.symbol :=
    tradeTotal_of_sells fills fill.symbol _ _ fun _fill _matching => rfl
  have sold : reportMoves.sold fills fill.symbol = boughtQuantity fills fill.symbol :=
    flat fill member
  cases left : (pairing fills).queue fill.symbol with
  | nil => rfl
  | cons lot rest =>
      rw [left, List.map_cons, List.sum_cons] at conserved
      have some_left := lot.quantity_pos
      omega

theorem sum_congr_symbols {left right : String → ℚ}
    (same : ∀ fill ∈ fills, left fill.symbol = right fill.symbol) :
    ∑ symbol ∈ (fills.map ReportFill.symbol).toFinset, left symbol =
      ∑ symbol ∈ (fills.map ReportFill.symbol).toFinset, right symbol := by
  refine Finset.sum_congr rfl fun symbol listed => ?_
  obtain ⟨fill, member, rfl⟩ := List.mem_map.mp (List.mem_toFinset.mp listed)
  exact same fill member

theorem sum_grossPnl_of_flat (covered : NeverOversells fills) (flat : EndsFlat fills) :
    ((pairFills fills).map PairedTrade.grossPnl).sum =
      (fills.map ReportFill.proceeds).sum := by
  have costs : ∑ symbol ∈ (fills.map ReportFill.symbol).toFinset, fifoCost fills symbol =
      ∑ symbol ∈ (fills.map ReportFill.symbol).toFinset,
        ((reportMoves.buysOf fills symbol).map ReportFill.value).sum :=
    sum_congr_symbols fun fill member => fifoCost_of_flat flat member
  have buys := Moves.sum_buysOf reportMoves fills ReportFill.value
  rw [sum_grossPnl covered, costs, sum_proceeds]
  exact congrArg₂ _ (by simp [reportMoves]) buys

theorem sum_totalFees_of_flat (covered : NeverOversells fills) (flat : EndsFlat fills) :
    ((pairFills fills).map PairedTrade.totalFees).sum = (fills.map ReportFill.fees).sum := by
  have entries : ((pairFills fills).map PairedTrade.entryFees).sum =
      ((fills.filter (fun fill => reportMoves.sells fill = false)).map ReportFill.fees).sum := by
    have buys := Moves.sum_buysOf reportMoves fills ReportFill.fees
    rw [← sum_tradeTotal, ← buys]
    refine sum_congr_symbols fun fill member => ?_
    have conserved := (pairFills_conserved covered fill.symbol).fees
    rw [queue_of_flat covered flat member] at conserved
    exact ((add_zero _).symm.trans conserved.symm)
  have exits : ((pairFills fills).map PairedTrade.exitFees).sum =
      ((fills.filter (fun fill => reportMoves.sells fill = true)).map ReportFill.fees).sum := by
    have sells := Moves.sum_sellsOf reportMoves fills ReportFill.fees
    rw [← sum_tradeTotal, ← sells]
    exact sum_congr_symbols fun fill _member =>
      tradeTotal_of_sells fills fill.symbol _ _ fun _fill _matching => rfl
  rw [Moves.sum_sides reportMoves, ← entries, ← exits, ← List.sum_map_add]
  congr 1
  refine List.map_congr_left fun trade member => ?_
  rcases trades_symbol noPairs fills trade member with none | ⟨fill, _listed, matching, rfl⟩
  · cases none
  · rfl

theorem sum_netPnl_of_flat (covered : NeverOversells fills) (flat : EndsFlat fills) :
    ((pairFills fills).map PairedTrade.netPnl).sum =
      (fills.map ReportFill.proceeds).sum - (fills.map ReportFill.fees).sum := by
  have each := (pairFills_conserves covered).2.2
  rw [← sum_grossPnl_of_flat covered flat, ← sum_totalFees_of_flat covered flat]
  refine eq_sub_of_add_eq ?_
  rw [← List.sum_map_add]
  exact congrArg List.sum (List.map_congr_left each)

/-! ### Where the analysers agree -/

/-- The text functions with no rounding. -/
def ReportText.unrounded (text : ReportText T) : ReportText T :=
  { text with round := fun value _digits => value }

variable [LinearOrder T] {text : ReportText T}

/-- The totals of both analysers. -/
structure TotalsAgree (text : ReportText T) (fills : List (ReportFill T)) : Prop where
  gross : ((text.unrounded.reconstructTrades fills).1.map ReconstructedTrade.grossPnl).sum =
    ((pairFills fills).map PairedTrade.grossPnl).sum
  net : ((text.unrounded.reconstructTrades fills).1.map ReconstructedTrade.netPnl).sum =
    ((pairFills fills).map PairedTrade.netPnl).sum

/-- When each sell closes the oldest open buy whole: the price of that buy times what the sell
exceeds it by, and the values of sells without a buy, less those of buys that stay open. -/
def unpairedValue (fills : List (ReportFill T)) : ℚ :=
  let closings := reportMoves.closings fills
  (closings.closed.map fun pair =>
      ((pair.2.quantity : ℚ) - pair.1.quantity) * pair.1.price).sum +
    (closings.unmatched.map ReportFill.value).sum - (closings.opened.map ReportFill.value).sum

/-- The fees of the sells without a buy and of the buys that stay open. -/
def unpairedFees (fills : List (ReportFill T)) : ℚ :=
  let closings := reportMoves.closings fills
  (closings.unmatched.map ReportFill.fees).sum + (closings.opened.map ReportFill.fees).sum

theorem reconstructTrades_eq (ordered : fills.Pairwise
    (fun earlier later => earlier.timestamp ≤ later.timestamp)) :
    (text.reconstructTrades fills).1 = (reportMoves.closings fills).closed.map
      (fun pair => text.closeLot pair.2 (text.openLot pair.1)) := by
  have sorted : ReportText.sortedFills fills = fills := ordered.insertionSort_eq
  have start : Matches text ReportText.nothingOpen
      { opened := [], closed := [], unmatched := [] } :=
    { opened := fun _symbol => rfl, trades := rfl }
  rw [ReportText.reconstructTrades, sorted]
  exact (matches_run start fills).trades

theorem gross_difference (text : ReportText T) (ordered : fills.Pairwise
      (fun earlier later => earlier.timestamp ≤ later.timestamp))
    (covered : NeverOversells fills) (flat : EndsFlat fills) :
    ((pairFills fills).map PairedTrade.grossPnl).sum =
      ((text.unrounded.reconstructTrades fills).1.map ReconstructedTrade.grossPnl).sum +
        unpairedValue fills := by
  have sided := Moves.sided_closings reportMoves fills
  have total := Moves.total_closings reportMoves fills ReportFill.proceeds
  have booked : ((reportMoves.closings fills).closed.map (fun pair =>
      (text.unrounded.closeLot pair.2 (text.unrounded.openLot pair.1)).grossPnl)).sum =
      ((reportMoves.closings fills).closed.map (fun pair =>
        (pair.2.price - pair.1.price) * (pair.2.quantity : ℚ))).sum := rfl
  rw [Closings.total, sum_proceeds_of_buys sided.opened, sum_proceeds_of_sells sided.unmatched,
    sum_closed_proceeds sided.closed] at total
  rw [sum_grossPnl_of_flat covered flat, ← total, reconstructTrades_eq ordered, List.map_map,
    unpairedValue]
  simp only [Function.comp_def, booked]
  ring

theorem net_difference (text : ReportText T) (ordered : fills.Pairwise
      (fun earlier later => earlier.timestamp ≤ later.timestamp))
    (covered : NeverOversells fills) (flat : EndsFlat fills) :
    ((pairFills fills).map PairedTrade.netPnl).sum =
      ((text.unrounded.reconstructTrades fills).1.map ReconstructedTrade.netPnl).sum +
        unpairedValue fills - unpairedFees fills := by
  have gross := gross_difference text ordered covered flat
  have total := Moves.total_closings reportMoves fills ReportFill.fees
  have booked : ((reportMoves.closings fills).closed.map (fun pair =>
      (text.unrounded.closeLot pair.2 (text.unrounded.openLot pair.1)).netPnl)).sum +
      ((reportMoves.closings fills).closed.map (fun pair =>
        pair.1.fees + pair.2.fees)).sum =
      ((reportMoves.closings fills).closed.map (fun pair =>
        (text.unrounded.closeLot pair.2 (text.unrounded.openLot pair.1)).grossPnl)).sum := by
    rw [← List.sum_map_add]
    refine congrArg List.sum (List.map_congr_left fun pair _member => ?_)
    simp only [ReportText.closeLot, ReportText.openLot, ReportText.unrounded]
    ring
  rw [sum_netPnl_of_flat covered flat, ← sum_grossPnl_of_flat covered flat, gross, ← total,
    reconstructTrades_eq ordered, List.map_map, List.map_map, unpairedFees, Closings.total]
  simp only [Function.comp_def, ← booked]
  ring

theorem totalsAgree_iff_unpaired (ordered : fills.Pairwise
      (fun earlier later => earlier.timestamp ≤ later.timestamp))
    (covered : NeverOversells fills) (flat : EndsFlat fills) :
    TotalsAgree text fills ↔ unpairedValue fills = 0 ∧ unpairedFees fills = 0 := by
  have gross := gross_difference text ordered covered flat
  have net := net_difference text ordered covered flat
  constructor
  · intro agree
    rw [agree.gross] at gross
    rw [agree.net] at net
    constructor <;> linarith
  · rintro ⟨value, fees⟩
    exact
      { gross := by linarith
        net := by linarith }

/-- The sells of every symbol have, one after the other, the quantities of its buys. -/
def LotsAlike (fills : List (ReportFill T)) : Prop :=
  ∀ fill ∈ fills, (reportMoves.sellsOf fills fill.symbol).map ReportFill.quantity =
    (reportMoves.buysOf fills fill.symbol).map ReportFill.quantity

instance (fills : List (ReportFill T)) : Decidable (LotsAlike fills) :=
  List.decidableBAll _ fills

omit [LinearOrder T] in
theorem lotsAlike_iff_exact (covered : NeverOversells fills) :
    LotsAlike fills ↔ reportMoves.Exact (reportMoves.closings fills) := by
  rw [Moves.exact_closings_iff (fun fill _member => fill.quantity_pos) covered]
  constructor
  · intro alike symbol
    by_cases traded : ∃ fill ∈ fills, fill.symbol = symbol
    · obtain ⟨fill, member, rfl⟩ := traded
      exact alike fill member
    · have untraded : ∀ fill ∈ fills, reportMoves.key fill ≠ symbol :=
        fun fill member own => traded ⟨fill, member, own⟩
      have noSells : reportMoves.sellsOf fills symbol = [] :=
        List.filter_eq_nil_iff.mpr fun fill member own =>
          untraded fill member (of_decide_eq_true own).1
      have noBuys : reportMoves.buysOf fills symbol = [] :=
        List.filter_eq_nil_iff.mpr fun fill member own =>
          untraded fill member (of_decide_eq_true own).1
      rw [noSells, noBuys]
  · exact fun alike fill _member => alike fill.symbol

omit [LinearOrder T] in
theorem unpaired_of_exact (exactly : reportMoves.Exact (reportMoves.closings fills)) :
    unpairedValue fills = 0 ∧ unpairedFees fills = 0 := by
  have differences : (reportMoves.closings fills).closed.map (fun pair =>
      ((pair.2.quantity : ℚ) - pair.1.quantity) * pair.1.price) =
      (reportMoves.closings fills).closed.map (fun _pair => (0 : ℚ)) := by
    refine List.map_congr_left fun pair member => ?_
    have whole : pair.2.quantity = pair.1.quantity := exactly.closed pair member
    rw [whole, sub_self, zero_mul]
  constructor
  · simp [unpairedValue, differences, exactly.unmatched, exactly.opened]
  · simp [unpairedFees, exactly.unmatched, exactly.opened]

/-! ### The same fills at other prices -/

section Repriced

variable (prices fees : ℕ → ℚ)

def repricedFill (listed : ReportFill T × ℕ) : ReportFill T :=
  { listed.1 with
    price := prices listed.2
    fees := fees listed.2 }

def repriced (fills : List (ReportFill T)) : List (ReportFill T) :=
  fills.zipIdx.map (repricedFill prices fees)

def listedMoves : Moves (ReportFill T × ℕ) String Unit :=
  { key := fun listed => listed.1.symbol
    sells := fun listed => reportMoves.sells listed.1
    quantity := fun listed => listed.1.quantity
    label := fun _listed => () }

omit [LinearOrder T]

theorem reads_fst :
    reportMoves.Reads listedMoves (Prod.fst : ReportFill T × ℕ → ReportFill T) :=
  { key := fun _listed => rfl
    sells := fun _listed => rfl
    quantity := fun _listed => rfl }

theorem reads_repricedFill :
    reportMoves.Reads listedMoves (repricedFill prices fees : ReportFill T × ℕ → _) :=
  { key := fun _listed => rfl
    sells := fun _listed => rfl
    quantity := fun _listed => rfl }

theorem neverOversells_listed (fills : List (ReportFill T)) :
    NeverOversells fills ↔ listedMoves.NeverOversells (fun _ => 0) fills.zipIdx := by
  have unlisted := reads_fst.neverOversells (fun _ => 0) fills.zipIdx
  rw [List.zipIdx_map_fst] at unlisted
  exact unlisted

theorem neverOversells_repriced (covered : NeverOversells fills) :
    NeverOversells (repriced prices fees fills) :=
  ((reads_repricedFill prices fees).neverOversells _ _).mpr
    ((neverOversells_listed fills).mp covered)

theorem endsFlat_repriced (flat : EndsFlat fills) : EndsFlat (repriced prices fees fills) := by
  have unlisted := reads_fst.endsFlat fills.zipIdx
  rw [List.zipIdx_map_fst] at unlisted
  exact ((reads_repricedFill prices fees).endsFlat _).mpr (unlisted.mp flat)

theorem ordered_repriced [LinearOrder T] (ordered : fills.Pairwise
    (fun earlier later => earlier.timestamp ≤ later.timestamp)) :
    (repriced prices fees fills).Pairwise
      (fun earlier later => earlier.timestamp ≤ later.timestamp) := by
  have listed : (fills.zipIdx.map Prod.fst).Pairwise
      (fun earlier later => earlier.timestamp ≤ later.timestamp) := by
    rw [List.zipIdx_map_fst]
    exact ordered
  rw [List.pairwise_map] at listed
  exact List.pairwise_map.mpr listed

theorem closings_repriced :
    reportMoves.closings (repriced prices fees fills) =
      Moves.mapClosings (repricedFill prices fees) (listedMoves.closings fills.zipIdx) :=
  (reads_repricedFill prices fees).closings_map fills.zipIdx

end Repriced

theorem sum_map_singleton {τ : Type} (items : List τ) (place : τ → ℕ) :
    (items.map (fun item => ({place item} : Multiset ℕ))).sum = (items.map place : List ℕ) := by
  induction items with
  | nil => rfl
  | cons item rest ih =>
      rw [List.map_cons, List.sum_cons, ih, Multiset.singleton_add]
      rfl

theorem sum_map_of_alone {τ : Type} {items : List τ} {item : τ} {value : τ → ℚ}
    (nodup : items.Nodup) (member : item ∈ items)
    (alone : ∀ other, other ≠ item → other ∈ items → value other = 0) :
    (items.map value).sum = value item := by
  classical
  rw [List.sum_map_eq_nsmul_single item value alone, List.count_eq_one_of_mem nodup member,
    one_nsmul]

omit [LinearOrder T] in
theorem nodup_closed (fills : List (ReportFill T)) :
    ((listedMoves.closings fills.zipIdx).closed.map (fun pair => pair.1.2)).Nodup := by
  have total := Moves.total_closings listedMoves fills.zipIdx
    (fun listed => ({listed.2} : Multiset ℕ))
  rw [Closings.total, List.sum_map_add] at total
  simp only [sum_map_singleton] at total
  have once : ((fills.zipIdx.map Prod.snd : List ℕ) : Multiset ℕ).Nodup := by
    rw [List.zipIdx_map_snd]
    exact Multiset.coe_nodup.mpr List.nodup_range'
  rw [← total] at once
  have within := (Multiset.nodup_add.mp (Multiset.nodup_add.mp once).1).2.1
  exact Multiset.coe_nodup.mp (Multiset.nodup_add.mp within).1

omit [LinearOrder T] in
theorem exact_of_unpaired {fills : List (ReportFill T)}
    (cancels : ∀ prices fees, unpairedValue (repriced prices fees fills) = 0 ∧
      unpairedFees (repriced prices fees fills) = 0) :
    listedMoves.Exact (listedMoves.closings fills.zipIdx) := by
  have fees := (cancels (fun _ => 0) (fun _ => 1)).2
  unfold unpairedFees at fees
  simp only [closings_repriced, Moves.mapClosings, List.map_map, Function.comp_def, repricedFill,
    List.map_const', List.sum_replicate, nsmul_eq_mul, mul_one] at fees
  have counts : (listedMoves.closings fills.zipIdx).unmatched.length +
      (listedMoves.closings fills.zipIdx).opened.length = 0 := by
    exact_mod_cast fees
  obtain ⟨noneUnmatched, noneOpened⟩ := Nat.add_eq_zero_iff.mp counts
  have unmatched := List.length_eq_zero_iff.mp noneUnmatched
  have opened := List.length_eq_zero_iff.mp noneOpened
  refine { opened := opened, unmatched := unmatched, closed := ?_ }
  intro pair member
  -- Only the lot of this pair has a price.
  have value := (cancels (fun place => if place = pair.1.2 then 1 else 0) (fun _ => 0)).1
  unfold unpairedValue at value
  simp only [closings_repriced, Moves.mapClosings, unmatched, opened, List.map_map,
    Function.comp_def, repricedFill, List.map_nil, List.sum_nil, add_zero, sub_zero] at value
  have alone : ∀ other, other ≠ pair → other ∈ (listedMoves.closings fills.zipIdx).closed →
      ((other.2.1.quantity : ℚ) - other.1.1.quantity) *
        (if other.1.2 = pair.1.2 then 1 else 0) = 0 := by
    intro other apart listed
    have elsewhere : other.1.2 ≠ pair.1.2 := fun same =>
      apart (List.inj_on_of_nodup_map (nodup_closed fills) listed member same)
    rw [if_neg elsewhere, mul_zero]
  rw [sum_map_of_alone (nodup_closed fills).of_map member alone, if_pos rfl, mul_one,
    sub_eq_zero] at value
  exact_mod_cast value

/-- Where the sells have the quantities of the buys, the analysers agree; elsewhere they differ
at some prices and fees. -/
theorem totals_agree_of_lotsAlike (text : ReportText T) (ordered : fills.Pairwise
      (fun earlier later => earlier.timestamp ≤ later.timestamp))
    (covered : NeverOversells fills) (flat : EndsFlat fills) :
    (LotsAlike fills → TotalsAgree text fills) ∧
      (¬ LotsAlike fills → ∃ prices fees, ¬ TotalsAgree text (repriced prices fees fills)) := by
  constructor
  · intro alike
    have exactly := (lotsAlike_iff_exact covered).mp alike
    exact (totalsAgree_iff_unpaired ordered covered flat).mpr (unpaired_of_exact exactly)
  · intro unlike
    by_contra! agree
    apply unlike
    have cancels : ∀ prices fees, unpairedValue (repriced prices fees fills) = 0 ∧
        unpairedFees (repriced prices fees fills) = 0 := by
      intro prices fees
      exact (totalsAgree_iff_unpaired (ordered_repriced prices fees ordered)
        (neverOversells_repriced prices fees covered)
        (endsFlat_repriced prices fees flat)).mp (agree prices fees)
    have exactly := reads_fst.exact (exact_of_unpaired cancels)
    rw [List.zipIdx_map_fst] at exactly
    exact (lotsAlike_iff_exact covered).mpr exactly

end Totals

/-! ### One buy that is sold in two halves -/

def plainText : ReportText ℕ :=
  { round := fun value _digits => value
    fromisoformat := fun timestamp => some timestamp }

def halvedFills : List (ReportFill ℕ) :=
  [reportFill "INFY" .buy 10 100 0, reportFill "INFY" .sell 5 110 1,
    reportFill "INFY" .sell 5 120 2]

/-- The second half finds no open buy and is left out. -/
theorem halvedFills_disagree :
    halvedFills.Pairwise (fun earlier later => earlier.timestamp ≤ later.timestamp) ∧
      NeverOversells halvedFills ∧ EndsFlat halvedFills ∧
      ((plainText.unrounded.reconstructTrades halvedFills).1.map
        ReconstructedTrade.grossPnl).sum = 50 ∧
      ((pairFills halvedFills).map PairedTrade.grossPnl).sum = 150 ∧
      ¬ TotalsAgree plainText halvedFills := by
  have reconstructed : ((plainText.unrounded.reconstructTrades halvedFills).1.map
      ReconstructedTrade.grossPnl).sum = 50 := by decide +kernel
  have paired : ((pairFills halvedFills).map PairedTrade.grossPnl).sum = 150 := by
    decide +kernel
  refine ⟨by decide, by decide, by decide, reconstructed, paired, fun agree => ?_⟩
  have same := agree.gross
  rw [reconstructed, paired] at same
  exact absurd same (by decide)

def wholeFills : List (ReportFill ℕ) :=
  [reportFill "INFY" .buy 10 100 0, reportFill "TCS" .buy 4 300 1,
    reportFill "INFY" .sell 10 110 2, reportFill "TCS" .sell 4 290 3]

theorem wholeFills_totals_agree : TotalsAgree plainText wholeFills := by
  have ordered : wholeFills.Pairwise
      (fun earlier later => earlier.timestamp ≤ later.timestamp) := by decide
  have alike : LotsAlike wholeFills := by decide
  exact (totals_agree_of_lotsAlike plainText ordered (by decide) (by decide)).1 alike

end TradingEngine.Scripts
