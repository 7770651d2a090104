/-
The replay loop shared by the single-symbol paper traders.

`run_ma_pullback_trader`, `run_bb_squeeze_trader` and `run_supertrend_trader`
replay a price frame bar by bar: they update indicators, decide at the bar what
to close and what to enter, and book the decision with the same `close_trade`
and entry code.  A `ReplayRules` value is what differs between them.
-/

import Mathlib.Data.Int.Notation
import TradingEngine.General.DecimalRounding
import TradingEngine.General.LotSizing
import TradingEngine.General.RangeLoop
import TradingEngine.MarketData

namespace TradingEngine

open DecimalRounding

variable {K : Type} [Field K] [LinearOrder K] [FloorRing K]

/-! ### Decisions -/

inductive ExitReason where
  | stopLoss
  | targetHit
  | maxDaysHeld (days : ℤ)
  | priceBelowMidband
  | bearishFlip
deriving DecidableEq

def ExitReason.text : ExitReason → String
  | .stopLoss => "stop_loss"
  | .targetHit => "target_hit"
  | .maxDaysHeld days => "max_" ++ toString days ++ "_days_held"
  | .priceBelowMidband => "price_below_midband"
  | .bearishFlip => "supertrend_bearish_flip"

/-- What a bar makes the replay do: call `close_trade`, or open a position at the
bar's fill. -/
inductive Action (K : Type) where
  | close (price : K) (date : Timestamp) (reason : ExitReason)
  | enter
deriving DecidableEq

/-- The part of a decision that carries no fill. -/
inductive Signal where
  | exit (reason : ExitReason)
  | entry
deriving DecidableEq

def Action.signal : Action K → Signal
  | .close _ _ reason => .exit reason
  | .enter => .entry

/-! ### Book -/

structure Position (K : Type) where
  qty : ℕ
  entryPrice : K
  entryDate : Timestamp
  stopPrice : K
  targetPrice : Option K
deriving DecidableEq

structure Trade (K : Type) where
  entryDate : Date
  exitDate : Date
  entryPrice : K
  exitPrice : K
  qty : ℕ
  pnl : K
  reason : String
deriving DecidableEq

structure TodayEntry (K : Type) where
  entryPrice : Option K
  qty : ℕ
  stopLoss : K
  target : Option K
  capital : K
deriving DecidableEq

structure Book (K : Type) where
  position : Option (Position K)
  realizedPnl : K
  closedTrades : List (Trade K)
  todayClosed : List (Trade K)
  todayEntry : Option (TodayEntry K)
deriving DecidableEq

def Book.start : Book K :=
  { position := none
    realizedPnl := 0
    closedTrades := []
    todayClosed := []
    todayEntry := none }

def capitalPerTrade : K := 100000

/-- Percentages that fix the stop and, for one strategy, the target of an entry. -/
structure ExitTerms (K : Type) where
  stopLossPct : K
  targetPct : Option K

def Position.pnlAt (position : Position K) (exitPrice : K) : K :=
  (exitPrice - position.entryPrice) * position.qty

def Position.isLive (position : Position K) : Bool :=
  paperTradingStart ≤ position.entryDate.date

def Position.tradeAt (position : Position K) (exitPrice : K) (exitDate : Timestamp)
    (reason : ExitReason) : Trade K :=
  { entryDate := position.entryDate.date
    exitDate := exitDate.date
    entryPrice := roundTo 2 position.entryPrice
    exitPrice := roundTo 2 exitPrice
    qty := position.qty
    pnl := roundTo 2 (position.pnlAt exitPrice)
    reason := reason.text }

/-- `close_trade`: only a trade entered on or after the paper start is recorded. -/
def Book.closeTrade (today : Date) (book : Book K) (exitPrice : K) (exitDate : Timestamp)
    (reason : ExitReason) : Book K :=
  match book.position with
  | none => book
  | some position =>
      let trade := position.tradeAt exitPrice exitDate reason
      if position.isLive then
        { position := none
          realizedPnl := book.realizedPnl + position.pnlAt exitPrice
          closedTrades := book.closedTrades ++ [trade]
          todayClosed :=
            if exitDate.date = today then book.todayClosed ++ [trade] else book.todayClosed
          todayEntry := book.todayEntry }
      else { book with position := none }

@[simp] theorem Book.closeTrade_of_flat {today : Date} {book : Book K}
    (flat : book.position = none) (exitPrice : K) (exitDate : Timestamp)
    (reason : ExitReason) : book.closeTrade today exitPrice exitDate reason = book := by
  unfold Book.closeTrade
  rw [flat]

theorem Book.closeTrade_of_held {today : Date} {book : Book K} {position : Position K}
    (held : book.position = some position) (exitPrice : K) (exitDate : Timestamp)
    (reason : ExitReason) :
    book.closeTrade today exitPrice exitDate reason =
      if position.isLive then
        { position := none
          realizedPnl := book.realizedPnl + position.pnlAt exitPrice
          closedTrades := book.closedTrades ++ [position.tradeAt exitPrice exitDate reason]
          todayClosed :=
            if exitDate.date = today then
              book.todayClosed ++ [position.tradeAt exitPrice exitDate reason]
            else book.todayClosed
          todayEntry := book.todayEntry }
      else { book with position := none } := by
  unfold Book.closeTrade
  rw [held]

@[simp] theorem Book.closeTrade_position (today : Date) (book : Book K) (exitPrice : K)
    (exitDate : Timestamp) (reason : ExitReason) :
    (book.closeTrade today exitPrice exitDate reason).position = none := by
  cases held : book.position with
  | none => rw [Book.closeTrade_of_flat held, held]
  | some position =>
      rw [Book.closeTrade_of_held held]
      split <;> rfl

theorem Book.closeTrade_todayEntry (today : Date) (book : Book K) (exitPrice : K)
    (exitDate : Timestamp) (reason : ExitReason) :
    (book.closeTrade today exitPrice exitDate reason).todayEntry = book.todayEntry := by
  cases held : book.position with
  | none => rw [Book.closeTrade_of_flat held]
  | some position =>
      rw [Book.closeTrade_of_held held]
      split <;> rfl

theorem Book.closeTrade_todayClosed_of_past {today : Date} {exitDate : Timestamp}
    (past : exitDate.date < today) (book : Book K) (exitPrice : K) (reason : ExitReason) :
    (book.closeTrade today exitPrice exitDate reason).todayClosed = book.todayClosed := by
  cases held : book.position with
  | none => rw [Book.closeTrade_of_flat held]
  | some position =>
      rw [Book.closeTrade_of_held held, if_neg (ne_of_lt past)]
      split <;> rfl

theorem Book.closeTrade_closedTrades_prefix (today : Date) (book : Book K) (exitPrice : K)
    (exitDate : Timestamp) (reason : ExitReason) :
    book.closedTrades <+: (book.closeTrade today exitPrice exitDate reason).closedTrades := by
  cases held : book.position with
  | none => rw [Book.closeTrade_of_flat held]
  | some position =>
      rw [Book.closeTrade_of_held held]
      split
      · exact List.prefix_append _ _
      · exact List.prefix_rfl

def ExitTerms.positionAt (terms : ExitTerms K) (fill : K × Timestamp) : Position K :=
  { qty := LotSizing.units capitalPerTrade fill.1
    entryPrice := fill.1
    entryDate := fill.2
    stopPrice := fill.1 * (1 - terms.stopLossPct / (100 : ℕ))
    targetPrice := terms.targetPct.map (fun pct => fill.1 * (1 + pct / (100 : ℕ))) }

def Position.todayEntry (position : Position K) : TodayEntry K :=
  { entryPrice := some (roundTo 2 position.entryPrice)
    qty := position.qty
    stopLoss := roundTo 2 position.stopPrice
    target := position.targetPrice.map (roundTo 2)
    capital := roundTo 0 (position.qty * position.entryPrice) }

/-- The entry code of the replays.  The fill may be the next bar's, the signal
date is the bar's own. -/
def Book.enterPosition (today : Date) (terms : ExitTerms K) (book : Book K)
    (fill : K × Timestamp) (signalDate : Date) : Book K :=
  let position := terms.positionAt fill
  { book with
    position := some position
    todayEntry :=
      if signalDate = today then some position.todayEntry else book.todayEntry }

def Book.apply (today : Date) (terms : ExitTerms K) (fill : K × Timestamp)
    (signalDate : Date) (book : Book K) : Action K → Book K
  | .close price date reason => book.closeTrade today price date reason
  | .enter => book.enterPosition today terms fill signalDate

def Book.applyAll (today : Date) (terms : ExitTerms K) (fill : K × Timestamp)
    (signalDate : Date) (book : Book K) (actions : List (Action K)) : Book K :=
  actions.foldl (Book.apply today terms fill signalDate) book

/-! ### Loop -/

/-- What one strategy adds to the loop: its indicators, their update at a bar,
and the decision there. -/
structure ReplayRules (I K : Type) [Field K] [LinearOrder K] where
  initial : I
  observe : Frame K → ℕ → Bar K → I → I
  actions : Bar K → K × Timestamp → I → Option (Position K) → List (Action K)
  terms : ExitTerms K

structure LoopState (I K : Type) where
  indicators : I
  book : Book K

namespace ReplayRules

variable {I : Type} (rules : ReplayRules I K)

def start : LoopState I K :=
  { indicators := rules.initial
    book := Book.start }

def decide (df : Frame K) (i : ℕ) (bar : Bar K) (state : LoopState I K) :
    List (Action K) :=
  rules.actions bar (df.fill i bar) (rules.observe df i bar state.indicators)
    state.book.position

/-- One pass of `for i in range(n)`. -/
def stepAt (df : Frame K) (i : ℕ) (state : LoopState I K) : LoopState I K :=
  match df.bars[i]? with
  | none => state
  | some bar =>
      { indicators := rules.observe df i bar state.indicators
        book := state.book.applyAll df.todayDate rules.terms (df.fill i bar)
          bar.timestamp.date (rules.decide df i bar state) }

def stateAfter (df : Frame K) (count : ℕ) : LoopState I K :=
  RangeLoop.loop (rules.stepAt df) rules.start count

def actionsAt (df : Frame K) (i : ℕ) : List (Action K) :=
  match df.bars[i]? with
  | none => []
  | some bar => rules.decide df i bar (rules.stateAfter df i)

def signalsAt (df : Frame K) (i : ℕ) : List Signal :=
  (rules.actionsAt df i).map Action.signal

variable {rules}

theorem stepAt_of_getElem? {df : Frame K} {i : ℕ} {bar : Bar K}
    (found : df.bars[i]? = some bar) (state : LoopState I K) :
    rules.stepAt df i state =
      { indicators := rules.observe df i bar state.indicators
        book := state.book.applyAll df.todayDate rules.terms (df.fill i bar)
          bar.timestamp.date (rules.decide df i bar state) } := by
  unfold stepAt
  rw [found]

theorem actionsAt_of_getElem? {df : Frame K} {i : ℕ} {bar : Bar K}
    (found : df.bars[i]? = some bar) :
    rules.actionsAt df i = rules.decide df i bar (rules.stateAfter df i) := by
  unfold actionsAt
  rw [found]

theorem stateAfter_succ (df : Frame K) (count : ℕ) :
    rules.stateAfter df (count + 1) = rules.stepAt df count (rules.stateAfter df count) :=
  rfl

theorem signalsAt_of_getElem? {df : Frame K} {i : ℕ} {bar : Bar K}
    (found : df.bars[i]? = some bar) :
    rules.signalsAt df i =
      (rules.decide df i bar (rules.stateAfter df i)).map Action.signal := by
  rw [signalsAt, actionsAt_of_getElem? found]

end ReplayRules

/-! ### Report -/

structure PositionReport (K : Type) where
  entryPrice : K
  entryDate : Date
  qty : ℕ
  stopPrice : K
  targetPrice : Option K
deriving DecidableEq

structure ReplayResult (K : Type) where
  position : Option (PositionReport K)
  lastClose : K
  unrealizedPnl : K
  daysHeld : ℤ
  daysLeft : ℤ
  realizedPnl : K
  totalTrades : ℕ
  wins : ℕ
  losses : ℕ
  winRate : K
  closedTrades : List (Trade K)
  todayClosed : List (Trade K)
  todayEntry : Option (TodayEntry K)
  todayDate : Date
deriving DecidableEq

def Position.report (position : Position K) : PositionReport K :=
  { entryPrice := roundTo 2 position.entryPrice
    entryDate := position.entryDate.date
    qty := position.qty
    stopPrice := roundTo 2 position.stopPrice
    targetPrice := position.targetPrice.map (roundTo 2) }

def Book.report (book : Book K) (df : Frame K) (maxHold : ℤ) : ReplayResult K :=
  let lastClose := roundTo 2 df.lastBar.close
  let daysHeld := book.position.elim 0
    (fun position => df.lastBar.timestamp.daysSince position.entryDate)
  let wins := (book.closedTrades.filter (fun trade => 0 < trade.pnl)).length
  { position := book.position.map Position.report
    lastClose := lastClose
    unrealizedPnl := book.position.elim 0
      (fun position => roundTo 2 (position.pnlAt lastClose))
    daysHeld := daysHeld
    daysLeft := max 0 (maxHold - daysHeld)
    realizedPnl := roundTo 2 book.realizedPnl
    totalTrades := book.closedTrades.length
    wins := wins
    losses := book.closedTrades.length - wins
    winRate := roundTo 3 ((wins : K) / book.closedTrades.length)
    closedTrades := book.closedTrades
    todayClosed := book.todayClosed
    todayEntry := book.todayEntry
    todayDate := df.todayDate }

def ReplayRules.replay {I : Type} (rules : ReplayRules I K) (df : Frame K) (maxHold : ℤ) :
    ReplayResult K :=
  (rules.stateAfter df df.length).book.report df maxHold

end TradingEngine
