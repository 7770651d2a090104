/-
The trade logs of the replays.

A replay holds one position at a time, dates its entry by the fill and its exit by the
fill or the bar, and keeps the trades that were entered since the paper start.  So the
reported trades follow one another, none ends before it begins, and what is still held
was entered after all of them.  Each reported figure is rounded on its own: the prices,
the gain of a trade and the sum of the exact gains.
-/

import TradingEngine.General.SpanLog
import TradingEngine.Scripts.DailyPairReplay
import TradingEngine.Scripts.DailyReplay
import TradingEngine.Scripts.TradableExits

namespace TradingEngine

open DecimalRounding SpanLog

variable {K : Type} [Field K] [LinearOrder K] [IsStrictOrderedRing K] [FloorRing K]

/-! ### What a report shows -/

/-- Trades in order and one at a time, entered since the paper start and over by now, and
figures that agree up to half a paisa for every figure that was rounded. -/
structure Accounted (today now : Date) (roundings : ℕ) (trades todayClosed : List (Trade K))
    (openedOn : Option Date) (realized : K) : Prop where
  sequential : Sequential Trade.entryDate Trade.exitDate trades openedOn now
  started : ∀ trade ∈ trades, paperTradingStart ≤ trade.entryDate
  sized : ∀ trade ∈ trades, 0 < trade.qty
  closedToday : todayClosed = trades.filter (fun trade => trade.exitDate = today)
  priced : ∀ trade ∈ trades,
    |trade.pnl - (trade.exitPrice - trade.entryPrice) * trade.qty| ≤ (2 * trade.qty + 1) / 200
  realized : |realized - (trades.map Trade.pnl).sum| ≤ roundings / 200

def ReplayResult.IsExplained (result : ReplayResult K) : Prop :=
  Accounted result.todayDate result.todayDate (result.closedTrades.length + 1)
    result.closedTrades result.todayClosed (result.position.map PositionReport.entryDate)
    result.realizedPnl

def PaperTrader.PairReport.IsExplained (report : PaperTrader.PairReport K) : Prop :=
  Accounted report.todayDate report.todayDate (report.closedTrades.length + 1)
    report.closedTrades report.todayClosed (report.position.map PaperTrader.HeldReport.entryDate)
    report.realizedPnl

/-! ### Dates of a loop -/

/-- The date of the next pass, and the last date once there is none. -/
def dateAt (dates : List Date) (today : Date) (count : ℕ) : Date :=
  (dates[count]?).getD today

omit [IsStrictOrderedRing K] [FloorRing K] in
theorem dateAt_le_succ {dates : List Date} {today : Date} (increasing : dates.Pairwise (· < ·))
    (isLast : dates.getLast? = some today) {count : ℕ} (inside : count < dates.length) :
    dateAt dates today count ≤ dateAt dates today (count + 1) := by
  unfold dateAt
  rw [List.getElem?_eq_getElem inside]
  by_cases last : count + 1 < dates.length
  · rw [List.getElem?_eq_getElem last]
    exact le_of_lt (List.pairwise_iff_getElem.mp increasing _ _ inside last (Nat.lt_succ_self _))
  · have index : dates.length - 1 = count := by omega
    rw [List.getLast?_eq_getElem?, index, List.getElem?_eq_getElem inside] at isLast
    rw [List.getElem?_eq_none (by omega), Option.some_inj.mp isLast]
    exact le_refl today

/-! ### Money of a log -/

/-- A trade as the replays make it: entered and left at these prices. -/
structure Trade.Makes (trade : Trade K) (entryPrice exitPrice : K) : Prop where
  entered : trade.entryPrice = roundTo 2 entryPrice
  exited : trade.exitPrice = roundTo 2 exitPrice
  gained : trade.pnl = roundTo 2 ((exitPrice - entryPrice) * trade.qty)

theorem abs_roundTo_two_sub_le (x : K) : |roundTo 2 x - x| ≤ 1 / 200 := by
  have error := roundTo_error 2 x
  norm_num at error ⊢
  exact error

theorem Trade.Makes.priced {trade : Trade K} {entryPrice exitPrice : K}
    (makes : trade.Makes entryPrice exitPrice) :
    |trade.pnl - (trade.exitPrice - trade.entryPrice) * trade.qty| ≤
      (2 * trade.qty + 1) / 200 := by
  have gain := abs_le.mp (abs_roundTo_two_sub_le ((exitPrice - entryPrice) * trade.qty))
  have left := abs_le.mp (abs_roundTo_two_sub_le exitPrice)
  have entered := abs_le.mp (abs_roundTo_two_sub_le entryPrice)
  have shares : (0 : K) ≤ trade.qty := Nat.cast_nonneg _
  have spread : |(roundTo 2 exitPrice - exitPrice) - (roundTo 2 entryPrice - entryPrice)| ≤
      1 / 100 := by
    rw [abs_le]
    constructor <;> linarith
  have scaled : |((roundTo 2 exitPrice - exitPrice) - (roundTo 2 entryPrice - entryPrice)) *
      trade.qty| ≤ 1 / 100 * trade.qty := by
    rw [abs_mul, abs_of_nonneg shares]
    exact mul_le_mul_of_nonneg_right spread shares
  have bounds := abs_le.mp scaled
  rw [makes.gained, makes.entered, makes.exited, abs_le]
  constructor <;> linarith

namespace Accounted

variable {today now : Date} {roundings : ℕ} {trades todayClosed : List (Trade K)}
  {openedOn : Option Date} {realized : K}

omit [FloorRing K] in
theorem empty (today now : Date) : Accounted today now 0 ([] : List (Trade K)) [] none 0 where
  sequential := Sequential.empty _ _ now
  started := fun _trade member => absurd member List.not_mem_nil
  sized := fun _trade member => absurd member List.not_mem_nil
  closedToday := rfl
  priced := fun _trade member => absurd member List.not_mem_nil
  realized := by simp

theorem record
    (booked : Accounted today now trades.length trades todayClosed openedOn realized)
    {trade : Trade K} {entryPrice exitPrice : K}
    (makes : trade.Makes entryPrice exitPrice) (began : openedOn = some trade.entryDate)
    (order : now ≤ trade.exitDate) (started : paperTradingStart ≤ trade.entryDate)
    (sized : 0 < trade.qty) :
    Accounted today trade.exitDate (trades ++ [trade]).length (trades ++ [trade])
      (if trade.exitDate = today then todayClosed ++ [trade] else todayClosed) none
      (realized + (exitPrice - entryPrice) * trade.qty) where
  sequential := booked.sequential.close began order
  started := List.forall_mem_append.mpr
    ⟨booked.started, List.forall_mem_singleton.mpr started⟩
  sized := List.forall_mem_append.mpr ⟨booked.sized, List.forall_mem_singleton.mpr sized⟩
  closedToday := by
    rw [booked.closedToday, List.filter_append]
    split_ifs with same
    · simp [same]
    · simp [same]
  priced := List.forall_mem_append.mpr
    ⟨booked.priced, List.forall_mem_singleton.mpr makes.priced⟩
  realized := by
    have before := abs_le.mp booked.realized
    have gain := abs_le.mp (abs_roundTo_two_sub_le ((exitPrice - entryPrice) * trade.qty))
    rw [List.map_append, List.sum_append, List.map_singleton, List.sum_singleton,
      List.length_append, List.length_singleton, makes.gained, abs_le]
    push_cast
    constructor <;> linarith

variable (booked : Accounted today now roundings trades todayClosed openedOn realized)
include booked

omit [FloorRing K] [IsStrictOrderedRing K] in
theorem withSequential {heldOn : Option Date} {later : Date}
    (sequential : Sequential Trade.entryDate Trade.exitDate trades heldOn later) :
    Accounted today later roundings trades todayClosed heldOn realized :=
  { booked with sequential := sequential }

theorem rounded :
    Accounted today now (roundings + 1) trades todayClosed openedOn (roundTo 2 realized) where
  sequential := booked.sequential
  started := booked.started
  sized := booked.sized
  closedToday := booked.closedToday
  priced := booked.priced
  realized := by
    have before := abs_le.mp booked.realized
    have shown := abs_le.mp (abs_roundTo_two_sub_le realized)
    push_cast
    rw [abs_le]
    constructor <;> linarith

end Accounted

/-! ### The single-symbol replays -/

omit [IsStrictOrderedRing K] in
theorem LotSizing.units_pos (budget price : K) : 0 < LotSizing.units budget price :=
  lt_of_lt_of_le Nat.zero_lt_one (le_max_left _ _)

/-- The book of a replay at a date. -/
structure Book.IsBooked (today now : Date) (book : Book K) : Prop where
  log : Accounted today now book.closedTrades.length book.closedTrades book.todayClosed
    (book.position.map (fun held => held.entryDate.date)) book.realizedPnl
  sized : ∀ held ∈ book.position, 0 < held.qty

namespace Book.IsBooked

variable {today now : Date} {book : Book K} (booked : book.IsBooked today now)
include booked

omit [IsStrictOrderedRing K] [FloorRing K] in
theorem wait {later : Date} (order : now ≤ later) : book.IsBooked today later where
  log := booked.log.withSequential (booked.log.sequential.wait order)
  sized := booked.sized

omit [IsStrictOrderedRing K] in
theorem enterPosition (terms : ExitTerms K) (fill : K × Timestamp) (signalDate : Date)
    (order : now ≤ fill.2.date) :
    (book.enterPosition today terms fill signalDate).IsBooked today fill.2.date where
  log := booked.log.withSequential (booked.log.sequential.enter order)
  sized := by
    intro held entered
    cases entered
    exact LotSizing.units_pos _ _

theorem closeTrade {held : Position K} (holds : book.position = some held) (price : K)
    (date : Timestamp) (reason : ExitReason) (order : now ≤ date.date) :
    (book.closeTrade today price date reason).IsBooked today date.date := by
  have began := booked.log
  rw [holds] at began
  rw [Book.closeTrade_of_held holds]
  by_cases live : held.isLive = true
  · rw [if_pos live]
    have makes : (held.tradeAt price date reason).Makes held.entryPrice price :=
      ⟨rfl, rfl, rfl⟩
    constructor
    · exact began.record makes rfl order (of_decide_eq_true live) (booked.sized held holds)
    · exact fun _held none_ => absurd none_ (Option.not_mem_none _)
  · rw [if_neg live]
    constructor
    · exact began.withSequential (began.sequential.drop.wait order)
    · exact fun _held none_ => absurd none_ (Option.not_mem_none _)

end Book.IsBooked

namespace Frame

omit [IsStrictOrderedRing K] [FloorRing K]

def dates (df : Frame K) : List Date :=
  df.bars.map (fun bar => bar.timestamp.date)

theorem dates_getLast? (df : Frame K) : df.dates.getLast? = some df.todayDate := by
  unfold dates
  rw [List.getLast?_map, List.getLast?_eq_some_getLast df.nonempty]
  rfl

theorem dateAt_of_getElem? {df : Frame K} {i : ℕ} {bar : Bar K}
    (found : df.bars[i]? = some bar) : dateAt df.dates df.todayDate i = bar.timestamp.date := by
  unfold dateAt dates
  rw [List.getElem?_map, found]
  rfl

theorem dateAt_length (df : Frame K) : dateAt df.dates df.todayDate df.length = df.todayDate := by
  unfold dateAt dates
  rw [List.getElem?_eq_none]
  · rfl
  · rw [List.length_map]
    exact Nat.le_refl _

theorem fill_date {df : Frame K} {i : ℕ} {bar : Bar K} (found : df.bars[i]? = some bar) :
    (df.fill i bar).2.date = dateAt df.dates df.todayDate (i + 1) := by
  cases next : df.bars[i + 1]? with
  | some after =>
      rw [dateAt_of_getElem? next]
      unfold fill
      rw [next]
  | none =>
      have beyond := List.getElem?_eq_none_iff.mp next
      obtain ⟨inside, _⟩ := List.getElem?_eq_some_iff.mp found
      have last : i + 1 = df.length := Nat.le_antisymm inside beyond
      rw [last, dateAt_length]
      unfold fill
      rw [next]
      have index : i = df.length - 1 := by omega
      rw [index, df.getElem?_last] at found
      cases found
      rfl

theorem Daily.dates {df : Frame K} (daily : df.Daily) : df.dates.Pairwise (· < ·) :=
  List.Pairwise.map _ (fun _earlier _later order => order) daily

end Frame

namespace ReplayRules

variable {I : Type} {rules : ReplayRules I K}

theorem isBooked_stateAfter (single : rules.SingleActions) {df : Frame K} (daily : df.Daily)
    {count : ℕ} (within : count ≤ df.length) :
    (rules.stateAfter df count).book.IsBooked df.todayDate
      (dateAt df.dates df.todayDate count) := by
  induction count with
  | zero =>
      exact ⟨Accounted.empty _ _, fun _held none_ => absurd none_ (Option.not_mem_none _)⟩
  | succ i ih =>
      have before := ih (Nat.le_of_succ_le within)
      have found : df.bars[i]? = some df.bars[i] := List.getElem?_eq_getElem within
      have order : dateAt df.dates df.todayDate i ≤ dateAt df.dates df.todayDate (i + 1) :=
        dateAt_le_succ daily.dates df.dates_getLast? (by
          rw [Frame.dates, List.length_map]
          exact within)
      have action := single df i _ found
      rw [book_succ found]
      generalize held : (rules.stateAfter df i).book.position = position at action
      generalize rules.actionsAt df i = actions at action ⊢
      cases action with
      | nothing _position => exact before.wait order
      | enter =>
          have filled := before.enterPosition rules.terms (df.fill i df.bars[i])
            df.bars[i].timestamp.date (by rwa [Frame.fill_date found])
          rw [Frame.fill_date found] at filled
          exact filled
      | close position price date reason dated =>
          rcases dated with atFill | atBar
          · have closed := before.closeTrade held price date reason (by
              rwa [atFill, Frame.fill_date found])
            rw [atFill, Frame.fill_date found, ← atFill] at closed
            exact closed
          · have closed := before.closeTrade held price date reason (by
              rw [atBar, Frame.dateAt_of_getElem? found])
            apply closed.wait
            rw [atBar, ← Frame.dateAt_of_getElem? found]
            exact order

theorem replay_isExplained (single : rules.SingleActions) {df : Frame K} (daily : df.Daily)
    (maxHold : ℤ) : (rules.replay df maxHold).IsExplained := by
  have booked := isBooked_stateAfter single daily (Nat.le_refl df.length)
  rw [df.dateAt_length] at booked
  unfold ReplayResult.IsExplained
  change Accounted _ _ _ _ _
    (((rules.stateAfter df df.length).book.position.map Position.report).map
      PositionReport.entryDate) _
  rw [Option.map_map]
  exact booked.log.rounded

end ReplayRules

/-! ### The pair replay -/

namespace PaperTrader

structure PairState.IsBooked (today now : Date) (state : PairState K) : Prop where
  log : Accounted today now state.closedTrades.length state.closedTrades state.todayClosed
    (state.position.map (fun held => held.entryDate.date)) state.realizedPnl
  sized : ∀ held ∈ state.position, 0 < held.entryQty

namespace PairState.IsBooked

variable {today now : Date} {state : PairState K} (booked : state.IsBooked today now)
include booked

omit [IsStrictOrderedRing K] [FloorRing K] in
theorem wait {later : Date} (order : now ≤ later) : state.IsBooked today later where
  log := booked.log.withSequential (booked.log.sequential.wait order)
  sized := booked.sized

omit [IsStrictOrderedRing K] [FloorRing K] in
theorem observe (ratioHistory : List K) :
    IsBooked today now { state with ratioHistory := ratioHistory } :=
  ⟨booked.log, booked.sized⟩

theorem closePosition (row : PairRow K) (reason : ExitReason)
    (order : now ≤ row.timestamp.date) :
    (state.closePosition today row reason).IsBooked today row.timestamp.date := by
  cases holds : state.position with
  | none =>
      unfold PairState.closePosition
      rw [holds]
      exact booked.wait order
  | some held =>
      have began := booked.log
      rw [holds] at began
      rw [PairState.closePosition_of_held holds]
      by_cases live : held.isLive = true
      · rw [if_pos live]
        have makes : (held.tradeAt row reason).Makes held.entryPrice (row.closeOf held.side) :=
          ⟨rfl, rfl, rfl⟩
        constructor
        · exact began.record makes rfl order (of_decide_eq_true live) (booked.sized held holds)
        · exact fun _held none_ => absurd none_ (Option.not_mem_none _)
      · rw [if_neg live]
        constructor
        · exact began.withSequential (began.sequential.drop.wait order)
        · exact fun _held none_ => absurd none_ (Option.not_mem_none _)

theorem apply (row : PairRow K) (order : now ≤ row.timestamp.date) (action : Action) :
    (state.apply today row action).IsBooked today row.timestamp.date := by
  cases action with
  | close _side reason => exact booked.closePosition row reason order
  | enter side =>
      constructor
      · exact booked.log.withSequential (booked.log.sequential.enter order)
      · intro held entered
        cases entered
        exact LotSizing.units_pos _ _

theorem applyAll (row : PairRow K) (order : now ≤ row.timestamp.date) (actions : List Action) :
    (actions.foldl (PairState.apply today row) state).IsBooked today row.timestamp.date := by
  induction actions generalizing state now with
  | nil => exact booked.wait order
  | cons action rest ih => exact ih (booked.apply row order action) (le_refl _)

end PairState.IsBooked

omit [IsStrictOrderedRing K] [FloorRing K] in
theorem dateAt_of_getElem? {rows : List (PairRow K)} {today : Date} {i : ℕ} {row : PairRow K}
    (found : rows[i]? = some row) :
    dateAt (rows.map (fun row => row.timestamp.date)) today i = row.timestamp.date := by
  unfold dateAt
  rw [List.getElem?_map, found]
  rfl

theorem isBooked_stateAfter (sqrt : K → K) (params : Params K) {rows : List (PairRow K)}
    (daily : DailyRows rows) {last : PairRow K} (isLast : rows.getLast? = some last) {count : ℕ}
    (within : count ≤ rows.length) :
    (params.stateAfter sqrt last.timestamp.date rows count).IsBooked last.timestamp.date
      (dateAt (rows.map (fun row => row.timestamp.date)) last.timestamp.date count) := by
  induction count with
  | zero =>
      exact ⟨Accounted.empty _ _, fun _held none_ => absurd none_ (Option.not_mem_none _)⟩
  | succ i ih =>
      have before := ih (Nat.le_of_succ_le within)
      have found : rows[i]? = some rows[i] := List.getElem?_eq_getElem within
      rw [Params.stateAfter_succ found]
      unfold Params.stepRow
      have observed := before.observe (rows[i].observe params.windowSize
        (params.stateAfter sqrt last.timestamp.date rows i).ratioHistory)
      apply (observed.applyAll rows[i] (le_of_eq (dateAt_of_getElem? found)) _).wait
      rw [← dateAt_of_getElem? found]
      apply dateAt_le_succ
      · exact List.Pairwise.map _ (fun _earlier _later order => order) daily
      · rw [List.getLast?_map, isLast]
        rfl
      · rw [List.length_map]
        exact within

theorem replayRows_isExplained (sqrt : K → K) (symA symB : Ticker) (params : Params K)
    {rows : List (PairRow K)} (daily : DailyRows rows) {last : PairRow K}
    (isLast : rows.getLast? = some last) :
    (replayRows sqrt symA symB params rows last).IsExplained := by
  have booked := isBooked_stateAfter sqrt params daily isLast (Nat.le_refl rows.length)
  have ended : dateAt (rows.map (fun row => row.timestamp.date)) last.timestamp.date
      rows.length = last.timestamp.date := by
    unfold dateAt
    rw [List.getElem?_eq_none]
    · rfl
    · rw [List.length_map]
  rw [ended] at booked
  unfold PairReport.IsExplained
  change Accounted _ _ _ _ _
    (((params.stateAfter sqrt last.timestamp.date rows rows.length).position.map
      (Position.report symA symB last)).map HeldReport.entryDate) _
  rw [Option.map_map]
  exact booked.log.rounded

theorem replayPair_isExplained {sqrt : K → K} {fetch : Ticker → Option (Frame K)}
    (daily : ∀ ticker df, fetch ticker = some df → df.Daily) {symA symB : Ticker}
    {params : Params K} {report : PairReport K}
    (replayed : replayPair sqrt fetch symA symB params = .ok report) : report.IsExplained := by
  obtain ⟨dfA, dfB, last, fetchedA, fetchedB, isLast, rfl⟩ := replayPair_eq_ok replayed
  refine replayRows_isExplained sqrt symA symB params ?_ isLast
  rw [fetchedRows_of_fetched fetchedA fetchedB]
  exact dailyRows_alignRows (daily symA dfA fetchedA) dfB

end PaperTrader

/-! ### The four replays -/

/-- Whatever was downloaded, one bar a day: what the deployed replays report of it explains
itself. -/
theorem replays_explained (sqrt : K → K) {fetch : Ticker → Option (Frame K)}
    (daily : ∀ ticker df, fetch ticker = some df → df.Daily) :
    (∀ ticker df, fetch ticker = some df →
      (∀ params, (MAPullbackTrader.replaySymbol df params).IsExplained) ∧
      (∀ params, (BBSqueezeTrader.replaySymbol sqrt df params).IsExplained) ∧
      ∀ params, (SupertrendTrader.replaySymbol df params).IsExplained) ∧
    ∀ symA symB params report,
      PaperTrader.replayPair sqrt fetch symA symB params = .ok report → report.IsExplained := by
  constructor
  · intro ticker df found
    have frame := daily ticker df found
    refine ⟨?_, ?_, ?_⟩
    · intro params
      exact ReplayRules.replay_isExplained params.rules_singleActions frame _
    · intro params
      exact ReplayRules.replay_isExplained (params.rules_singleActions sqrt) frame _
    · intro params
      exact ReplayRules.replay_isExplained params.rules_singleActions frame _
  · intro symA symB params report replayed
    exact PaperTrader.replayPair_isExplained daily replayed

/-- The stopped-out squeeze trade, and no other download. -/
theorem gapFrame_explained :
    (BBSqueezeTrader.replaySymbol Rat.sqrt BBSqueezeTrader.gapFrame
      BBSqueezeTrader.squeezeParams).closedTrades.length = 1 ∧
    (BBSqueezeTrader.replaySymbol Rat.sqrt BBSqueezeTrader.gapFrame
      BBSqueezeTrader.squeezeParams).IsExplained := by
  have daily : ∀ ticker df,
      (fun ticker : Ticker => if ticker = "INFY" then some BBSqueezeTrader.gapFrame else none)
        ticker = some df → df.Daily := by
    intro ticker df found
    dsimp only at found
    split_ifs at found
    cases found
    decide
  refine ⟨by decide +kernel, ?_⟩
  exact ((replays_explained Rat.sqrt daily).1 "INFY" _ (if_pos rfl)).2.1 _

end TradingEngine
