/-
`run_paper_trader.replay_pair`, the deployed Black Swan replay.

Both legs are aligned on their common timestamps.  A position is closed at the
close of the row that decides it, and the entry test follows on the same row.
-/

import TradingEngine.General.RangeLoop
import TradingEngine.RatioZScore
import TradingEngine.Scripts.ReplayLoop

namespace TradingEngine.PaperTrader

open DecimalRounding

variable {K : Type} [Field K] [LinearOrder K]

structure Params (K : Type) where
  windowSize : ℕ
  entryZScore : K
  exitZScore : K
  stopLossZScore : K
  maxHoldDays : ℤ := 30

inductive ExitReason where
  | stopLoss
  | meanReverted
  | exitZ
  | maxHoldDays
deriving DecidableEq

def ExitReason.text : ExitReason → String
  | .stopLoss => "stop_loss"
  | .meanReverted => "mean_reverted"
  | .exitZ => "exit_z"
  | .maxHoldDays => "max_hold_days"

inductive Action where
  | close (side : PairSide) (reason : ExitReason)
  | enter (side : PairSide)
deriving DecidableEq

structure Position (K : Type) where
  side : PairSide
  entryPrice : K
  entryQty : ℕ
  entryDate : Timestamp
deriving DecidableEq

structure PairState (K : Type) where
  ratioHistory : List K
  position : Option (Position K)
  realizedPnl : K
  closedTrades : List (Trade K)
  todayClosed : List (Trade K)

def PairState.start : PairState K :=
  { ratioHistory := []
    position := none
    realizedPnl := 0
    closedTrades := []
    todayClosed := [] }

/-! ### Decision on a row -/

namespace Params

variable (params : Params K)

def exitReason (z : K) (daysHeld : ℤ) : PairSide → Option ExitReason
  | .longA =>
      if z ≤ -params.stopLossZScore then some .stopLoss
      else if -params.exitZScore ≤ z then some (if 0 ≤ z then .meanReverted else .exitZ)
      else if params.maxHoldDays ≤ daysHeld then some .maxHoldDays
      else none
  | .longB =>
      if params.stopLossZScore ≤ z then some .stopLoss
      else if z ≤ params.exitZScore then some (if z ≤ 0 then .meanReverted else .exitZ)
      else if params.maxHoldDays ≤ daysHeld then some .maxHoldDays
      else none

def entrySide (z : K) : Option PairSide :=
  if z ≤ -params.entryZScore then some .longA
  else if params.entryZScore ≤ z then some .longB
  else none

def exitAt (z : K) (row : PairRow K) (position : Position K) : Option ExitReason :=
  params.exitReason z (row.timestamp.daysSince position.entryDate) position.side

/-- The entry test is made whenever no position is left, also right after an exit. -/
def actions (z : K) (row : PairRow K) : Option (Position K) → List Action
  | none => (params.entrySide z).toList.map .enter
  | some held =>
      match params.exitAt z row held with
      | some reason => .close held.side reason :: (params.entrySide z).toList.map .enter
      | none => []

end Params

/-! ### Booking -/

section Booking

variable [FloorRing K]

def positionAt (row : PairRow K) (side : PairSide) : Position K :=
  { side := side
    entryPrice := row.closeOf side
    entryQty := LotSizing.units capitalPerTrade (row.closeOf side)
    entryDate := row.timestamp }

def Position.pnlAt (position : Position K) (closePrice : K) : K :=
  (closePrice - position.entryPrice) * position.entryQty

def Position.isLive (position : Position K) : Bool :=
  paperTradingStart ≤ position.entryDate.date

def Position.tradeAt (position : Position K) (row : PairRow K) (reason : ExitReason) :
    Trade K :=
  { entryDate := position.entryDate.date
    exitDate := row.timestamp.date
    entryPrice := roundTo 2 position.entryPrice
    exitPrice := roundTo 2 (row.closeOf position.side)
    qty := position.entryQty
    pnl := roundTo 2 (position.pnlAt (row.closeOf position.side))
    reason := reason.text }

/-- `close_position`. -/
def PairState.closePosition (today : Date) (row : PairRow K) (reason : ExitReason)
    (state : PairState K) : PairState K :=
  match state.position with
  | none => state
  | some position =>
      let trade := position.tradeAt row reason
      if position.isLive then
        { ratioHistory := state.ratioHistory
          position := none
          realizedPnl := state.realizedPnl + position.pnlAt (row.closeOf position.side)
          closedTrades := state.closedTrades ++ [trade]
          todayClosed :=
            if row.timestamp.date = today then state.todayClosed ++ [trade]
            else state.todayClosed }
      else { state with position := none }

theorem PairState.closePosition_of_held {state : PairState K} {position : Position K}
    (held : state.position = some position) (today : Date) (row : PairRow K)
    (reason : ExitReason) :
    state.closePosition today row reason =
      if position.isLive then
        { ratioHistory := state.ratioHistory
          position := none
          realizedPnl := state.realizedPnl + position.pnlAt (row.closeOf position.side)
          closedTrades := state.closedTrades ++ [position.tradeAt row reason]
          todayClosed :=
            if row.timestamp.date = today then
              state.todayClosed ++ [position.tradeAt row reason]
            else state.todayClosed }
      else { state with position := none } := by
  unfold PairState.closePosition
  rw [held]

def PairState.apply (today : Date) (row : PairRow K) (state : PairState K) :
    Action → PairState K
  | .close _side reason => state.closePosition today row reason
  | .enter side => { state with position := some (positionAt row side) }

end Booking

/-! ### Loop -/

namespace Params

variable (sqrt : K → K) (params : Params K)

def zScoreAt (row : PairRow K) (state : PairState K) : Option K :=
  row.zScore sqrt params.windowSize (row.observe params.windowSize state.ratioHistory)

def decide (row : PairRow K) (state : PairState K) : List Action :=
  (params.zScoreAt sqrt row state).elim [] (fun z => params.actions z row state.position)

variable [FloorRing K]

def stepRow (today : Date) (row : PairRow K) (state : PairState K) : PairState K :=
  (params.decide sqrt row state).foldl (PairState.apply today row)
    { state with ratioHistory := row.observe params.windowSize state.ratioHistory }

def stateAfter (today : Date) (rows : List (PairRow K)) (count : ℕ) : PairState K :=
  RangeLoop.loop
    (fun i state =>
      match rows[i]? with
      | none => state
      | some row => params.stepRow sqrt today row state)
    PairState.start count

def actionsAt (today : Date) (rows : List (PairRow K)) (i : ℕ) : List Action :=
  match rows[i]? with
  | none => []
  | some row => params.decide sqrt row (params.stateAfter sqrt today rows i)

variable {sqrt params}

theorem stateAfter_succ {today : Date} {rows : List (PairRow K)} {i : ℕ} {row : PairRow K}
    (found : rows[i]? = some row) :
    params.stateAfter sqrt today rows (i + 1) =
      params.stepRow sqrt today row (params.stateAfter sqrt today rows i) := by
  change (match rows[i]? with
    | none => params.stateAfter sqrt today rows i
    | some row => params.stepRow sqrt today row (params.stateAfter sqrt today rows i)) = _
  rw [found]

theorem actionsAt_of_getElem? {today : Date} {rows : List (PairRow K)} {i : ℕ}
    {row : PairRow K} (found : rows[i]? = some row) :
    params.actionsAt sqrt today rows i =
      params.decide sqrt row (params.stateAfter sqrt today rows i) := by
  unfold actionsAt
  rw [found]

end Params

/-! ### Report -/

structure HeldReport (K : Type) where
  side : PairSide
  boughtSym : Ticker
  entryPrice : K
  entryDate : Date
  entryQty : ℕ
  currentPrice : K
  unrealizedPnl : K
deriving DecidableEq

structure PairReport (K : Type) where
  pair : Symbol
  position : Option (HeldReport K)
  realizedPnl : K
  totalTrades : ℕ
  wins : ℕ
  closedTrades : List (Trade K)
  todayClosed : List (Trade K)
  todayDate : Date
deriving DecidableEq

def PairReport.isNewToday (report : PairReport K) : Bool :=
  report.position.any (fun held => held.entryDate = report.todayDate)

def alignRows (dfA dfB : Frame K) : List (PairRow K) :=
  dfA.bars.filterMap (fun barA =>
    (dfB.bars.find? (fun barB => barB.timestamp = barA.timestamp)).map (fun barB =>
      { timestamp := barA.timestamp
        closeA := barA.close
        closeB := barB.close
        closeA_pos := barA.close_pos }))

section Report

variable [FloorRing K]

def Position.report (symA symB : Ticker) (last : PairRow K) (position : Position K) :
    HeldReport K :=
  { side := position.side
    boughtSym :=
      match position.side with
      | .longA => symA
      | .longB => symB
    entryPrice := roundTo 2 position.entryPrice
    entryDate := position.entryDate.date
    entryQty := position.entryQty
    currentPrice := roundTo 2 (last.closeOf position.side)
    unrealizedPnl := roundTo 2 (position.pnlAt (last.closeOf position.side)) }

def PairState.report (symA symB : Ticker) (last : PairRow K) (state : PairState K) :
    PairReport K :=
  { pair := Symbol.pair symA symB
    position := state.position.map (Position.report symA symB last)
    realizedPnl := roundTo 2 state.realizedPnl
    totalTrades := state.closedTrades.length
    wins := (state.closedTrades.filter (fun trade => 0 < trade.pnl)).length
    closedTrades := state.closedTrades
    todayClosed := state.todayClosed
    todayDate := last.timestamp.date }

def replayRows (sqrt : K → K) (symA symB : Ticker) (params : Params K)
    (rows : List (PairRow K)) (last : PairRow K) : PairReport K :=
  (params.stateAfter sqrt last.timestamp.date rows rows.length).report symA symB last

/-- `replay_pair`. -/
def replayPair (sqrt : K → K) (fetch : Ticker → Option (Frame K)) (symA symB : Ticker)
    (params : Params K) : Except String (PairReport K) :=
  match fetch symA, fetch symB with
  | some dfA, some dfB =>
      let rows := alignRows dfA dfB
      match rows.getLast? with
      | none => .error "Insufficient data"
      | some last =>
          if rows.length < params.windowSize + 2 then .error "Insufficient data"
          else .ok (replayRows sqrt symA symB params rows last)
  | _, _ => .error ("Could not fetch data for " ++ symA ++ " or " ++ symB)

/-! ### What the replay does with its rows -/

def fetchedRows (fetch : Ticker → Option (Frame K)) (symA symB : Ticker) : List (PairRow K) :=
  match fetch symA, fetch symB with
  | some dfA, some dfB => alignRows dfA dfB
  | _, _ => []

/-- The entries and exits of `replay_pair` on row `i`; an error comes before the loop. -/
def replayActions (sqrt : K → K) (fetch : Ticker → Option (Frame K)) (symA symB : Ticker)
    (params : Params K) (i : ℕ) : List Action :=
  match replayPair sqrt fetch symA symB params with
  | .error _ => []
  | .ok report => params.actionsAt sqrt report.todayDate (fetchedRows fetch symA symB) i

variable {sqrt : K → K} {fetch : Ticker → Option (Frame K)} {symA symB : Ticker}
variable {params : Params K}

omit [FloorRing K] in
theorem fetchedRows_of_fetched {dfA dfB : Frame K} (fetchedA : fetch symA = some dfA)
    (fetchedB : fetch symB = some dfB) : fetchedRows fetch symA symB = alignRows dfA dfB := by
  unfold fetchedRows
  rw [fetchedA, fetchedB]

theorem replayPair_eq_ok {report : PairReport K}
    (replayed : replayPair sqrt fetch symA symB params = .ok report) :
    ∃ dfA dfB last, fetch symA = some dfA ∧ fetch symB = some dfB ∧
      (fetchedRows fetch symA symB).getLast? = some last ∧
      report = replayRows sqrt symA symB params (fetchedRows fetch symA symB) last := by
  unfold replayPair at replayed
  cases fetchedA : fetch symA with
  | none =>
      simp only [fetchedA] at replayed
      cases replayed
  | some dfA =>
      cases fetchedB : fetch symB with
      | none =>
          simp only [fetchedA, fetchedB] at replayed
          cases replayed
      | some dfB =>
          rw [fetchedRows_of_fetched fetchedA fetchedB]
          simp only [fetchedA, fetchedB] at replayed
          cases isLast : (alignRows dfA dfB).getLast? with
          | none =>
              simp only [isLast] at replayed
              cases replayed
          | some last =>
              simp only [isLast] at replayed
              split_ifs at replayed
              exact ⟨dfA, dfB, last, rfl, rfl, rfl, (Except.ok.inj replayed).symm⟩

theorem replayPair_of_short (sqrt : K → K) (params : Params K)
    (short : (fetchedRows fetch symA symB).length < params.windowSize + 2) :
    ∃ text, replayPair sqrt fetch symA symB params = .error text := by
  unfold fetchedRows at short
  unfold replayPair
  cases fetchedA : fetch symA with
  | none => exact ⟨_, rfl⟩
  | some dfA =>
      cases fetchedB : fetch symB with
      | none => exact ⟨_, rfl⟩
      | some dfB =>
          simp only [fetchedA, fetchedB] at short ⊢
          cases (alignRows dfA dfB).getLast? with
          | none => exact ⟨_, rfl⟩
          | some last => exact ⟨_, if_pos short⟩

theorem replayPair_of_long (sqrt : K → K) (params : Params K)
    (long : params.windowSize + 2 ≤ (fetchedRows fetch symA symB).length) :
    ∃ report, replayPair sqrt fetch symA symB params = .ok report := by
  unfold fetchedRows at long
  unfold replayPair
  cases fetchedA : fetch symA with
  | none =>
      simp only [fetchedA] at long
      contradiction
  | some dfA =>
      cases fetchedB : fetch symB with
      | none =>
          simp only [fetchedA, fetchedB] at long
          contradiction
      | some dfB =>
          simp only [fetchedA, fetchedB] at long ⊢
          cases isLast : (alignRows dfA dfB).getLast? with
          | none =>
              rw [List.getLast?_eq_none_iff.mp isLast] at long
              contradiction
          | some last => exact ⟨_, if_neg (Nat.not_lt.mpr long)⟩

theorem replayActions_of_error {text : String}
    (refused : replayPair sqrt fetch symA symB params = .error text) (i : ℕ) :
    replayActions sqrt fetch symA symB params i = [] := by
  unfold replayActions
  rw [refused]

theorem replayActions_of_ok {report : PairReport K}
    (replayed : replayPair sqrt fetch symA symB params = .ok report) (i : ℕ) :
    replayActions sqrt fetch symA symB params i =
      params.actionsAt sqrt report.todayDate (fetchedRows fetch symA symB) i := by
  unfold replayActions
  rw [replayed]

end Report

end TradingEngine.PaperTrader
