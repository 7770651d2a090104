/-
`backtest_bb_squeeze`, the backtest that selects the deployed BB Squeeze parameters.

It tests the close before the stop, may enter on a bar that has closed a position, and does not
enter on the last bar.  The deployed replay tests the stop first and does one thing a bar, so
both book the same exactly when no bar tells them apart.
-/

import Mathlib.Algebra.Order.BigOperators.Group.List
import Mathlib.Algebra.Order.Field.Basic
import TradingEngine.Scripts.TradableExits

namespace TradingEngine.BBSqueezeBacktest

open BBSqueezeTrader (Params Reading bbStdMult bbWindow windowBefore)
open DecimalRounding SampleStatistics

variable {K : Type} [Field K] [LinearOrder K]

/-! ### The backtest -/

/-- The local variables of `backtest_bb_squeeze`; the four position variables are set and
cleared together. -/
structure State (K : Type) where
  position : Option (Position K)
  trades : List (Trade K)
  cash : K
  equityCurve : List K

def State.start : State K :=
  { position := none
    trades := []
    cash := 0
    equityCurve := [] }

/-- What a bar closes: the price, the date and the reason of the exit. -/
structure Exit (K : Type) where
  price : K
  date : Timestamp
  reason : String

def isSqueeze (sqrt : K → K) (params : Params K) (window : List K) : Bool :=
  let middle := mean window
  let std := stdev sqrt window
  let upper := middle + bbStdMult * std
  let lower := middle - bbStdMult * std
  let bandWidth := if middle ≠ 0 then (upper - lower) / middle else (999 : ℕ)
  bandWidth < params.squeezeThreshold

/-- The bands of bar `i` and whether the bar before it was in a squeeze, absent in the
warm-up. -/
def readingAt (sqrt : K → K) (params : Params K) (df : Frame K) (i : ℕ) : Option (Reading K) :=
  if i < bbWindow then none
  else
    let window := windowBefore df (i + 1)
    some
      { middle := mean window
        upper := mean window + bbStdMult * stdev sqrt window
        prevSqueeze := isSqueeze sqrt params (windowBefore df i) }

/-- The holding time overrides the middle band; the stop is tested if neither has closed. -/
def exitAt (params : Params K) (bar : Bar K) (fill : K × Timestamp) (reading : Reading K)
    (position : Position K) : Option (Exit K) :=
  if params.maxHoldDays ≤ bar.timestamp.daysSince position.entryDate then
    some { price := fill.1, date := fill.2, reason := "max_hold" }
  else if bar.close < reading.middle then
    some { price := fill.1, date := fill.2, reason := "below_middle_bb" }
  else if bar.low ≤ position.stopPrice then
    some { price := position.stopPrice, date := bar.timestamp, reason := "stop_loss" }
  else none

def isSignal (bar : Bar K) (reading : Reading K) : Bool :=
  reading.prevSqueeze && reading.upper < bar.close

section Run

variable [FloorRing K]

def tradeAt (position : Position K) (exit : Exit K) : Trade K :=
  { entryDate := position.entryDate.date
    exitDate := exit.date.date
    entryPrice := roundTo 2 position.entryPrice
    exitPrice := roundTo 2 exit.price
    qty := position.qty
    pnl := roundTo 2 (position.pnlAt exit.price)
    reason := exit.reason }

def positionAt (params : Params K) (fill : K × Timestamp) : Position K :=
  { qty := LotSizing.units capitalPerTrade fill.1
    entryPrice := fill.1
    entryDate := fill.2
    stopPrice := fill.1 * (1 - params.stopLossPct / (100 : ℕ))
    targetPrice := none }

/-- The exit that bar `i` gives to the position that is held, if any. -/
def dueExit (params : Params K) (df : Frame K) (i : ℕ) (bar : Bar K) (reading : Reading K)
    (state : State K) : Option (Position K × Exit K) :=
  state.position.bind (fun held =>
    (exitAt params bar (df.fill i bar) reading held).map (fun exit => (held, exit)))

def close (due : Option (Position K × Exit K)) (state : State K) : State K :=
  match due with
  | none => state
  | some (held, exit) =>
      { state with
        position := none
        trades := state.trades ++ [tradeAt held exit]
        cash := state.cash + held.pnlAt exit.price }

/-- Whether a bar opens a position; on the last bar there is no open to fill it at. -/
def enters (df : Frame K) (i : ℕ) (bar : Bar K) (reading : Reading K) (state : State K) : Bool :=
  state.position.isNone && isSignal bar reading && decide (i + 1 < df.length)

def enter (params : Params K) (df : Frame K) (i : ℕ) (bar : Bar K) (reading : Reading K)
    (state : State K) : State K :=
  if enters df i bar reading state then
    { state with position := some (positionAt params (df.fill i bar)) }
  else state

def markEquity (bar : Bar K) (state : State K) : State K :=
  { state with
    equityCurve := state.equityCurve ++
      [state.cash + state.position.elim 0 (fun held => held.pnlAt bar.close)] }

/-- One pass of `for i in range(WARMUP, n)`. -/
def stepAt (sqrt : K → K) (params : Params K) (df : Frame K) (i : ℕ) (state : State K) :
    State K :=
  match df.bars[i]?, readingAt sqrt params df i with
  | some bar, some reading =>
      let closed := close (dueExit params df i bar reading state) state
      markEquity bar (enter params df i bar reading closed)
  | _, _ => state

def stateAfter (sqrt : K → K) (params : Params K) (df : Frame K) (count : ℕ) : State K :=
  RangeLoop.loop (stepAt sqrt params df) State.start count

/-- `np.min(eq - np.maximum.accumulate(eq))`, zero for an empty curve. -/
def maxDrawdown (equityCurve : List K) : K :=
  (equityCurve.foldl
    (fun (seen : Option K × K) equity =>
      let peak := seen.1.elim equity (max equity)
      (some peak, min seen.2 (equity - peak)))
    (none, 0)).2

structure Result (K : Type) where
  realizedPnl : K
  winRate : K
  tradeCount : ℕ
  maxDrawdown : K
  trades : List (Trade K)

def report (state : State K) : Result K :=
  let wins := (state.trades.filter (fun trade => 0 < trade.pnl)).length
  { realizedPnl := roundTo 2 (state.trades.map Trade.pnl).sum
    winRate := roundTo 4 ((wins : K) / state.trades.length)
    tradeCount := state.trades.length
    maxDrawdown := roundTo 2 (maxDrawdown state.equityCurve)
    trades := state.trades }

def backtestBBSqueeze (sqrt : K → K) (df : Frame K) (params : Params K) : Result K :=
  report (stateAfter sqrt params df df.length)

end Run

/-! ### What both book at a bar -/

/-- An exit at a price, or an entry at the fill of the bar. -/
inductive Booking (K : Type) where
  | exit (price : K) (reason : String)
  | entry
deriving DecidableEq

/-- The names that the backtest gives to the reasons of the replay. -/
def reasonName : ExitReason → String
  | .stopLoss => "stop_loss"
  | .priceBelowMidband => "below_middle_bb"
  | .maxDaysHeld _ => "max_hold"
  | other => other.text

def bookingOf : Action K → Booking K
  | .close price _ reason => .exit price (reasonName reason)
  | .enter => .entry

/-- A closed trade without its exit date and reason. -/
structure TradeTerms (K : Type) where
  entryDate : Date
  entryPrice : K
  exitPrice : K
  qty : ℕ
  pnl : K
deriving DecidableEq

def tradeTerms (trade : Trade K) : TradeTerms K :=
  { entryDate := trade.entryDate
    entryPrice := trade.entryPrice
    exitPrice := trade.exitPrice
    qty := trade.qty
    pnl := trade.pnl }

/-- The trades that the replay keeps: those entered since the paper start. -/
def liveTrades (trades : List (Trade K)) : List (Trade K) :=
  trades.filter (fun trade => decide (paperTradingStart ≤ trade.entryDate))

section Agreement

variable [FloorRing K] (sqrt : K → K) (params : Params K) (df : Frame K)

/-- What the backtest books at bar `i`. -/
def bookingsAt (i : ℕ) : List (Booking K) :=
  match df.bars[i]?, readingAt sqrt params df i with
  | some bar, some reading =>
      let state := stateAfter sqrt params df i
      let due := dueExit params df i bar reading state
      due.toList.map (fun found => Booking.exit found.2.price found.2.reason) ++
        if enters df i bar reading (close due state) then [.entry] else []
  | _, _ => []

def BookingsAgree (i : ℕ) : Prop :=
  ((params.rules sqrt).actionsAt df i).map bookingOf = bookingsAt sqrt params df i

/-- The exit tests that a bar meets. -/
def met (bar : Bar K) (reading : Reading K) (held : Position K) : List String :=
  (if bar.low ≤ held.stopPrice then ["stop_loss"] else []) ++
    (if bar.close < reading.middle then ["below_middle_bb"] else []) ++
    (if params.maxHoldDays ≤ bar.timestamp.daysSince held.entryDate then ["max_hold"] else [])

/-- A bar that closes the position meets one exit test only and is no signal, unless it is the
last bar; a bar that opens one is not the last bar. -/
def Unambiguous (i : ℕ) : Prop :=
  ∀ bar reading, df.bars[i]? = some bar → params.readingAt sqrt df i = some reading →
    match ((params.rules sqrt).stateAfter df i).book.position with
    | some held =>
        (met params bar reading held).length ≤ 1 ∧
          (met params bar reading held ≠ [] → isSignal bar reading = true → df.length ≤ i + 1)
    | none => isSignal bar reading = true → i + 1 < df.length

/-- Both hold the same position, and the replay has kept the live trades of the backtest. -/
structure Related (i : ℕ) : Prop where
  position : ((params.rules sqrt).stateAfter df i).book.position =
    (stateAfter sqrt params df i).position
  trades : ((params.rules sqrt).stateAfter df i).book.closedTrades.map tradeTerms =
    (liveTrades (stateAfter sqrt params df i).trades).map tradeTerms

theorem related_start : Related sqrt params df 0 :=
  { position := rfl
    trades := rfl }

end Agreement

section Pass

variable [IsStrictOrderedRing K] {sqrt : K → K} {params : Params K} {df : Frame K} {i : ℕ}
  {bar : Bar K} {reading : Reading K}

theorem mean_windowBefore_pos (ready : bbWindow ≤ i) (inside : i < df.length) :
    0 < mean (windowBefore df i) := by
  have closes : (windowBefore df i).length = bbWindow := by
    unfold windowBefore
    have bars : df.bars.length = df.length := rfl
    rw [List.length_take, List.length_drop, List.length_map]
    omega
  have positive : ∀ close ∈ windowBefore df i, 0 < close := by
    intro close member
    obtain ⟨bar, _, rfl⟩ := List.mem_map.mp (List.mem_of_mem_drop (List.mem_of_mem_take member))
    exact bar.close_pos
  have nonempty : windowBefore df i ≠ [] := by
    intro empty
    rw [empty] at closes
    cases closes
  apply div_pos (List.sum_pos _ positive nonempty)
  rw [closes]
  exact Nat.cast_pos.mpr (by decide)

theorem readingAt_eq (inside : i < df.length) :
    readingAt sqrt params df i = params.readingAt sqrt df i := by
  unfold readingAt Params.readingAt
  split_ifs with warmup
  · rfl
  · have positive := mean_windowBefore_pos (Nat.le_of_not_lt warmup) inside
    unfold isSqueeze Params.isSqueeze
    simp only [ne_of_gt positive, positive, ne_eq, not_false_eq_true, if_true]

variable [FloorRing K]

variable (params) in
theorem stepAt_of_reading (found : df.bars[i]? = some bar)
    (read : params.readingAt sqrt df i = some reading) :
    stateAfter sqrt params df (i + 1) =
      markEquity bar (enter params df i bar reading
        (close (dueExit params df i bar reading (stateAfter sqrt params df i))
          (stateAfter sqrt params df i))) := by
  have inside := (List.getElem?_eq_some_iff.mp found).1
  change stepAt sqrt params df i (stateAfter sqrt params df i) = _
  unfold stepAt
  rw [found, readingAt_eq inside, read]

variable (params) in
theorem bookingsAt_of_reading (found : df.bars[i]? = some bar)
    (read : params.readingAt sqrt df i = some reading) :
    bookingsAt sqrt params df i =
      (dueExit params df i bar reading (stateAfter sqrt params df i)).toList.map
          (fun found => Booking.exit found.2.price found.2.reason) ++
        if enters df i bar reading
          (close (dueExit params df i bar reading (stateAfter sqrt params df i))
            (stateAfter sqrt params df i)) then [.entry] else [] := by
  have inside := (List.getElem?_eq_some_iff.mp found).1
  unfold bookingsAt
  rw [found, readingAt_eq inside, read]

variable (params) in
omit [IsStrictOrderedRing K] in
theorem actionsAt_of_reading (found : df.bars[i]? = some bar)
    (read : params.readingAt sqrt df i = some reading) :
    (params.rules sqrt).actionsAt df i =
      params.actions bar (df.fill i bar) (some reading)
        ((params.rules sqrt).stateAfter df i).book.position := by
  rw [ReplayRules.actionsAt_of_getElem? found, ← read]
  rfl

variable (params) in
omit [IsStrictOrderedRing K] in
theorem book_succ_of_reading (found : df.bars[i]? = some bar)
    (read : params.readingAt sqrt df i = some reading) :
    ((params.rules sqrt).stateAfter df (i + 1)).book =
      ((params.rules sqrt).stateAfter df i).book.applyAll df.todayDate (params.rules sqrt).terms
        (df.fill i bar) bar.timestamp.date
        (params.actions bar (df.fill i bar) (some reading)
          ((params.rules sqrt).stateAfter df i).book.position) := by
  rw [ReplayRules.stateAfter_succ, ReplayRules.stepAt_of_getElem? found, ← read]
  rfl

theorem pass_of_warmup (related : Related sqrt params df i) (found : df.bars[i]? = some bar)
    (warmup : params.readingAt sqrt df i = none) :
    BookingsAgree sqrt params df i ∧ Unambiguous sqrt params df i ∧
      Related sqrt params df (i + 1) := by
  have inside := (List.getElem?_eq_some_iff.mp found).1
  have silent : (params.rules sqrt).decide df i bar ((params.rules sqrt).stateAfter df i) = [] := by
    change params.actions bar (df.fill i bar) (params.readingAt sqrt df i) _ = []
    rw [warmup]
    rfl
  have replayed : ((params.rules sqrt).stateAfter df (i + 1)).book =
      ((params.rules sqrt).stateAfter df i).book := by
    rw [ReplayRules.stateAfter_succ, ReplayRules.stepAt_of_getElem? found, silent]
    rfl
  have backtested : stateAfter sqrt params df (i + 1) = stateAfter sqrt params df i := by
    change stepAt sqrt params df i (stateAfter sqrt params df i) = _
    unfold stepAt
    rw [found, readingAt_eq inside, warmup]
  refine ⟨?_, ?_, ?_⟩
  · unfold BookingsAgree bookingsAt
    rw [ReplayRules.actionsAt_of_getElem? found, silent, found, readingAt_eq inside, warmup]
    rfl
  · intro bar' reading' _ read
    rw [warmup] at read
    cases read
  · exact
      { position := by rw [replayed, backtested]; exact related.position
        trades := by rw [replayed, backtested]; exact related.trades }

omit [IsStrictOrderedRing K] [FloorRing K] in
theorem actions_of_flat (fill : K × Timestamp) :
    params.actions bar fill (some reading) none =
      if isSignal bar reading then [.enter] else [] :=
  rfl

omit [IsStrictOrderedRing K] in
theorem unambiguous_iff_of_flat (found : df.bars[i]? = some bar)
    (read : params.readingAt sqrt df i = some reading)
    (flat : ((params.rules sqrt).stateAfter df i).book.position = none) :
    Unambiguous sqrt params df i ↔ (isSignal bar reading = true → i + 1 < df.length) := by
  unfold Unambiguous
  rw [flat]
  constructor
  · exact fun unambiguous => unambiguous bar reading found read
  · intro unambiguous bar' reading' found' read'
    obtain rfl := Option.some.inj (found.symm.trans found')
    obtain rfl := Option.some.inj (read.symm.trans read')
    exact unambiguous

variable (params) in
omit [IsStrictOrderedRing K] in
theorem unambiguous_iff_of_held {held : Position K} (found : df.bars[i]? = some bar)
    (read : params.readingAt sqrt df i = some reading)
    (position : ((params.rules sqrt).stateAfter df i).book.position = some held) :
    Unambiguous sqrt params df i ↔
      (met params bar reading held).length ≤ 1 ∧
        (met params bar reading held ≠ [] → isSignal bar reading = true →
          df.length ≤ i + 1) := by
  unfold Unambiguous
  rw [position]
  constructor
  · exact fun unambiguous => unambiguous bar reading found read
  · intro unambiguous bar' reading' found' read'
    obtain rfl := Option.some.inj (found.symm.trans found')
    obtain rfl := Option.some.inj (read.symm.trans read')
    exact unambiguous

theorem pass_of_flat (related : Related sqrt params df i) (found : df.bars[i]? = some bar)
    (read : params.readingAt sqrt df i = some reading)
    (flat : ((params.rules sqrt).stateAfter df i).book.position = none) :
    (BookingsAgree sqrt params df i ↔ Unambiguous sqrt params df i) ∧
      (Unambiguous sqrt params df i → Related sqrt params df (i + 1)) := by
  have backtestFlat : (stateAfter sqrt params df i).position = none :=
    related.position.symm.trans flat
  have noExit : dueExit params df i bar reading (stateAfter sqrt params df i) = none := by
    unfold dueExit
    rw [backtestFlat]
    rfl
  have entering : enters df i bar reading (stateAfter sqrt params df i) =
      (isSignal bar reading && decide (i + 1 < df.length)) := by
    unfold enters
    rw [backtestFlat]
    rfl
  have booked := bookingsAt_of_reading params found read
  have next := stepAt_of_reading params found read
  have replayed := book_succ_of_reading params found read
  have acted := actionsAt_of_reading params found read
  rw [noExit] at booked next
  change _ = [] ++ if enters df i bar reading (stateAfter sqrt params df i) then _ else _ at booked
  change _ = markEquity bar (if enters df i bar reading (stateAfter sqrt params df i) then _
    else _) at next
  rw [flat, actions_of_flat] at replayed acted
  rw [entering] at booked next
  rw [unambiguous_iff_of_flat found read flat, BookingsAgree, acted, booked]
  cases signal : isSignal bar reading with
  | false =>
      rw [signal] at replayed next
      refine ⟨by simp, fun _ => ?_⟩
      exact
        { position := by rw [replayed, next]; exact flat.trans backtestFlat.symm
          trades := by rw [replayed, next]; exact related.trades }
  | true =>
      rw [signal] at replayed next
      refine ⟨by simp [bookingOf], fun settled => ?_⟩
      rw [decide_eq_true (settled rfl)] at next
      exact
        { position := by rw [replayed, next]; rfl
          trades := by rw [replayed, next]; exact related.trades }

variable (params bar reading) in
omit [IsStrictOrderedRing K] [FloorRing K] in
/-- Both book the same exit of a held position, without an entry, exactly when one exit test is
met at most and no entry may follow it. -/
theorem bookings_of_held_iff (held : Position K) (fill : K × Timestamp) (settled : Prop)
    [Decidable settled] :
    (params.actions bar fill (some reading) (some held)).map bookingOf =
        (exitAt params bar fill reading held).toList.map
            (fun exit => Booking.exit exit.price exit.reason) ++
          (if (exitAt params bar fill reading held).isSome && isSignal bar reading &&
            decide settled then [.entry] else []) ↔
      (met params bar reading held).length ≤ 1 ∧
        (met params bar reading held ≠ [] → isSignal bar reading = true → ¬ settled) := by
  rw [Params.actions_of_held]
  unfold Params.exitAt exitAt met
  by_cases stop : bar.low ≤ held.stopPrice <;> by_cases below : bar.close < reading.middle <;>
    by_cases long : params.maxHoldDays ≤ bar.timestamp.daysSince held.entryDate <;>
    simp [stop, below, long, bookingOf, reasonName]

variable (params) in
omit [IsStrictOrderedRing K] [FloorRing K] in
theorem price_of_exit {held : Position K} (fill : K × Timestamp)
    (single : (met params bar reading held).length ≤ 1) :
    (params.exitAt bar fill.1 reading held).map Prod.fst =
      (exitAt params bar fill reading held).map Exit.price := by
  unfold met at single
  unfold Params.exitAt exitAt
  by_cases stop : bar.low ≤ held.stopPrice <;> by_cases below : bar.close < reading.middle <;>
    by_cases long : params.maxHoldDays ≤ bar.timestamp.daysSince held.entryDate <;>
    simp [stop, below, long] at single ⊢

omit [IsStrictOrderedRing K] [FloorRing K] in
theorem met_ne_nil_of_exit {held : Position K} {fill : K × Timestamp} {exit : Exit K}
    (due : exitAt params bar fill reading held = some exit) :
    met params bar reading held ≠ [] := by
  unfold met
  unfold exitAt at due
  by_cases stop : bar.low ≤ held.stopPrice <;> by_cases below : bar.close < reading.middle <;>
    by_cases long : params.maxHoldDays ≤ bar.timestamp.daysSince held.entryDate <;>
    simp [stop, below, long] at due ⊢

omit [IsStrictOrderedRing K] in
theorem trades_of_exit {book : Book K} {state : State K} {held : Position K} {exit : Exit K}
    (position : book.position = some held)
    (trades : book.closedTrades.map tradeTerms = (liveTrades state.trades).map tradeTerms)
    (today : Date) (date : Timestamp) (reason : ExitReason) :
    (book.closeTrade today exit.price date reason).closedTrades.map tradeTerms =
      (liveTrades (close (some (held, exit)) state).trades).map tradeTerms := by
  have appended : liveTrades (close (some (held, exit)) state).trades =
      liveTrades state.trades ++ bif held.isLive then [tradeAt held exit] else [] := by
    change liveTrades (state.trades ++ [tradeAt held exit]) = _
    unfold liveTrades
    rw [List.filter_append, List.filter_singleton]
    rfl
  rw [Book.closeTrade_of_held position, appended, List.map_append, ← trades]
  cases held.isLive with
  | true =>
      change (book.closedTrades ++ [held.tradeAt exit.price date reason]).map tradeTerms = _
      rw [List.map_append]
      rfl
  | false => exact (List.append_nil _).symm

theorem pass_of_held {held : Position K} (related : Related sqrt params df i)
    (found : df.bars[i]? = some bar) (read : params.readingAt sqrt df i = some reading)
    (position : ((params.rules sqrt).stateAfter df i).book.position = some held) :
    (BookingsAgree sqrt params df i ↔ Unambiguous sqrt params df i) ∧
      (Unambiguous sqrt params df i → Related sqrt params df (i + 1)) := by
  have backtestHeld : (stateAfter sqrt params df i).position = some held :=
    related.position.symm.trans position
  have due : dueExit params df i bar reading (stateAfter sqrt params df i) =
      (exitAt params bar (df.fill i bar) reading held).map (fun exit => (held, exit)) := by
    unfold dueExit
    rw [backtestHeld]
    rfl
  have entering : enters df i bar reading
      (close (dueExit params df i bar reading (stateAfter sqrt params df i))
        (stateAfter sqrt params df i)) =
      ((exitAt params bar (df.fill i bar) reading held).isSome && isSignal bar reading &&
        decide (i + 1 < df.length)) := by
    rw [due]
    unfold enters
    cases exitAt params bar (df.fill i bar) reading held with
    | none =>
        change ((stateAfter sqrt params df i).position.isNone && _ && _) = _
        rw [backtestHeld]
        rfl
    | some exit => rfl
  have clean := unambiguous_iff_of_held params found read position
  have booked := bookingsAt_of_reading params found read
  have next := stepAt_of_reading params found read
  have replayed := book_succ_of_reading params found read
  have acted := actionsAt_of_reading params found read
  rw [entering, due] at booked
  rw [position] at replayed acted
  refine ⟨?_, ?_⟩
  · rw [clean, BookingsAgree, acted, booked, Option.toList_map, List.map_map]
    have exactly := bookings_of_held_iff params bar reading held (df.fill i bar) (i + 1 < df.length)
    rw [Nat.not_lt] at exactly
    exact exactly
  · intro unambiguous
    obtain ⟨single, alone⟩ := clean.mp unambiguous
    have prices := price_of_exit params (df.fill i bar) single
    rw [Params.actions_of_held] at replayed
    unfold enter at next
    rw [entering, due] at next
    cases exiting : exitAt params bar (df.fill i bar) reading held with
    | none =>
        rw [exiting] at prices next
        rw [Option.map_eq_none_iff.mp prices] at replayed
        exact
          { position := by rw [replayed, next]; exact related.position
            trades := by rw [replayed, next]; exact related.trades }
    | some exit =>
        have noEntry : (isSignal bar reading && decide (i + 1 < df.length)) = false := by
          cases signal : isSignal bar reading with
          | false => rfl
          | true =>
              have last := alone (met_ne_nil_of_exit exiting) signal
              exact decide_eq_false (Nat.not_lt.mpr last)
        rw [exiting] at prices next
        obtain ⟨⟨price, reason⟩, closes, same⟩ := Option.map_eq_some_iff.mp prices
        change price = exit.price at same
        subst same
        rw [closes] at replayed
        rw [Option.isSome_some, Bool.true_and, noEntry] at next
        have booking : ((params.rules sqrt).stateAfter df (i + 1)).book =
            ((params.rules sqrt).stateAfter df i).book.closeTrade df.todayDate exit.price
              bar.timestamp reason := replayed
        refine { position := ?_, trades := ?_ }
        · rw [booking, next, Book.closeTrade_position]
          rfl
        · rw [booking, next]
          exact trades_of_exit position related.trades _ _ _

theorem pass (related : Related sqrt params df i) (inside : i < df.length) :
    (BookingsAgree sqrt params df i ↔ Unambiguous sqrt params df i) ∧
      (Unambiguous sqrt params df i → Related sqrt params df (i + 1)) := by
  have found : df.bars[i]? = some df.bars[i] := List.getElem?_eq_getElem inside
  cases read : params.readingAt sqrt df i with
  | none =>
      obtain ⟨agree, clean, next⟩ := pass_of_warmup related found read
      exact ⟨iff_of_true agree clean, fun _ => next⟩
  | some reading =>
      cases position : ((params.rules sqrt).stateAfter df i).book.position with
      | none => exact pass_of_flat related found read position
      | some held => exact pass_of_held related found read position

end Pass

/-- On every frame the deployed replay books what the backtest books on every bar exactly when
every bar is unambiguous, and then it has closed the same trades since the paper start. -/
theorem bookings_agree_iff [IsStrictOrderedRing K] [FloorRing K] (sqrt : K → K)
    (params : Params K) (df : Frame K) :
    ((∀ i, i < df.length → BookingsAgree sqrt params df i) ↔
      ∀ i, i < df.length → Unambiguous sqrt params df i) ∧
    ((∀ i, i < df.length → Unambiguous sqrt params df i) →
      (BBSqueezeTrader.replaySymbol sqrt df params).closedTrades.map tradeTerms =
        (liveTrades (backtestBBSqueeze sqrt df params).trades).map tradeTerms) := by
  constructor
  · exact RangeLoop.lockstep_iff (Related sqrt params df) (BookingsAgree sqrt params df)
      (Unambiguous sqrt params df) df.length (related_start sqrt params df)
      (fun _i inside related => (pass related inside).1)
      (fun _i inside related clean => (pass related inside).2 clean)
  · intro clean
    have related := RangeLoop.related_of_clean (Related sqrt params df)
      (Unambiguous sqrt params df) df.length (related_start sqrt params df)
      (fun _i inside related clean => (pass related inside).2 clean) clean
    exact related.trades

instance [FloorRing K] (sqrt : K → K) (params : Params K) (df : Frame K) (i : ℕ) :
    Decidable (BookingsAgree sqrt params df i) :=
  inferInstanceAs (Decidable (_ = _))

/-- The last bar opens below the stop and closes below the middle band. -/
theorem gapFrame_not_unambiguous :
    ¬ ∀ i, i < BBSqueezeTrader.gapFrame.length →
      Unambiguous Rat.sqrt BBSqueezeTrader.squeezeParams BBSqueezeTrader.gapFrame i := by
  rw [← (bookings_agree_iff Rat.sqrt BBSqueezeTrader.squeezeParams BBSqueezeTrader.gapFrame).1]
  intro agree
  have apart : ¬ BookingsAgree Rat.sqrt BBSqueezeTrader.squeezeParams
      BBSqueezeTrader.gapFrame 22 := by
    decide +kernel
  exact apart (agree 22 (by decide))

end TradingEngine.BBSqueezeBacktest
