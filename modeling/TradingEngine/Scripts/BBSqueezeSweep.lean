/-
`run_sweep_for_symbol`, which selects the deployed BB Squeeze parameters and validates them.

The rows before the end of the training period choose the parameters, and the rows from it on
test them.  A backtest fills at the next open at the latest and is flat when it starts, so no
trade of the test was decided with its own future or counted in the training, and rows that come
in later change the last trade of the test at most.
-/

import TradingEngine.General.FirstBest
import TradingEngine.Scripts.AppendStability
import TradingEngine.Scripts.BBSqueezeBacktest
import TradingEngine.Scripts.TradeLogs

namespace TradingEngine.BBSqueezeBacktest

open BBSqueezeTrader (Params Reading bbWindow windowBefore)
open SpanLog

variable {K : Type} [Field K] [LinearOrder K] [FloorRing K]

/-! ### The sweep -/

/-- `TRAIN_END`, the first of January 2025. -/
def trainEnd : Date := 20089

/-- `itertools.product` over `PARAM_GRID`. -/
def paramGrid : List (Params K) :=
  [(5 : ℕ), 8, 10].flatMap (fun threshold =>
    [(3 : ℕ), 5, 8].flatMap (fun stopLoss =>
      [(10 : ℤ), 20, 30].map (fun maxHold =>
        { squeezeThreshold := threshold / (100 : ℕ)
          stopLossPct := stopLoss
          maxHoldDays := maxHold })))

/-- `df[df["timestamp"] < TRAIN_END]`. -/
def trainRows (stop : Date) (df : Frame K) : List (Bar K) :=
  df.bars.filter (fun bar => bar.timestamp.seconds < stop * 86400)

/-- `df[df["timestamp"] >= TRAIN_END]`. -/
def testRows (stop : Date) (df : Frame K) : List (Bar K) :=
  df.bars.filter (fun bar => stop * 86400 ≤ bar.timestamp.seconds)

/-- `backtest_bb_squeeze` on rows, of which there may be none. -/
def backtestRows (sqrt : K → K) (rows : List (Bar K)) (params : Params K) : Result K :=
  if nonempty : rows ≠ [] then
    backtestBBSqueeze sqrt { bars := rows, nonempty := nonempty } params
  else report State.start

structure Sweep (K : Type) where
  bestParams : Params K
  train : Result K
  test : Result K

/-- Parameters count from eight trades on. -/
def isEligible (found : Params K × Result K) : Bool :=
  8 ≤ found.2.tradeCount

def trainPnl (found : Params K × Result K) : K :=
  found.2.realizedPnl

/-- `run_sweep_for_symbol` over `combos` with the training period up to `stop`. -/
def runSweepForSymbol (sqrt : K → K) (combos : List (Params K)) (stop : Date) (df : Frame K) :
    Option (Sweep K) :=
  let results := combos.map (fun params =>
    (params, backtestRows sqrt (trainRows stop df) params))
  (FirstBest.firstBest isEligible trainPnl results).map (fun found =>
    { bestParams := found.1
      train := found.2
      test := backtestRows sqrt (testRows stop df) found.1 })

/-! ### More rows -/

section Growth

variable {sqrt : K → K} {params : Params K} {df : Frame K} {i : ℕ}

omit [FloorRing K] in
theorem readingAt_append (later : List (Bar K)) (inside : i < df.length) :
    readingAt sqrt params (df.append later) i = readingAt sqrt params df i := by
  unfold readingAt
  by_cases warmup : i < bbWindow
  · rw [if_pos warmup, if_pos warmup]
  · have full := Nat.le_of_not_lt warmup
    rw [if_neg warmup, if_neg warmup,
      BBSqueezeTrader.windowBefore_append df later (Nat.succ_le_of_lt inside)
        (Nat.le_succ_of_le full),
      BBSqueezeTrader.windowBefore_append df later (Nat.le_of_lt inside) full]

theorem stepAt_append (later : List (Bar K)) (settled : i + 1 < df.length) (state : State K) :
    stepAt sqrt params (df.append later) i state = stepAt sqrt params df i state := by
  have inside : i < df.length := Nat.lt_of_succ_lt settled
  have longer : i + 1 < (df.append later).length := by
    rw [df.length_append]
    omega
  unfold stepAt
  rw [df.getElem?_append later inside, readingAt_append later inside]
  cases df.bars[i]? with
  | none => rfl
  | some bar =>
      cases readingAt sqrt params df i with
      | none => rfl
      | some reading =>
          dsimp only
          unfold dueExit enter enters
          rw [df.fill_append later bar settled, decide_eq_true longer, decide_eq_true settled]

theorem stateAfter_append (later : List (Bar K)) {count : ℕ} (inside : count < df.length) :
    stateAfter sqrt params (df.append later) count = stateAfter sqrt params df count := by
  induction count with
  | zero => rfl
  | succ i ih =>
      change stepAt sqrt params (df.append later) i (stateAfter sqrt params (df.append later) i) =
        stepAt sqrt params df i (stateAfter sqrt params df i)
      rw [ih (Nat.lt_of_succ_lt inside), stepAt_append later inside]

omit [FloorRing K] in
theorem trades_markEquity (bar : Bar K) (state : State K) :
    (markEquity bar state).trades = state.trades :=
  rfl

theorem trades_enter (bar : Bar K) (reading : Reading K) (state : State K) :
    (enter params df i bar reading state).trades = state.trades := by
  unfold enter
  split_ifs
  · rfl
  · rfl

omit [FloorRing K] in
theorem exit_dated {bar : Bar K} {reading : Reading K} {state : State K} {held : Position K}
    {exit : Exit K} (due : dueExit params df i bar reading state = some (held, exit)) :
    exit.date.date = bar.timestamp.date ∨ exit.date.date = (df.fill i bar).2.date := by
  obtain ⟨_, _, made⟩ := Option.bind_eq_some_iff.mp due
  obtain ⟨exit', closes, same⟩ := Option.map_eq_some_iff.mp made
  cases same
  unfold exitAt at closes
  split_ifs at closes
  · cases closes
    exact .inr rfl
  · cases closes
    exact .inr rfl
  · cases closes
    exact .inl rfl

variable (sqrt params df i) in
theorem trades_stepAt (state : State K) :
    ∃ closed, (stepAt sqrt params df i state).trades = state.trades ++ closed ∧
      closed.length ≤ 1 ∧ ∀ trade ∈ closed, ∃ bar, df.bars[i]? = some bar ∧
        (trade.exitDate = bar.timestamp.date ∨ trade.exitDate = (df.fill i bar).2.date) := by
  unfold stepAt
  cases found : df.bars[i]? with
  | none => exact ⟨[], (List.append_nil _).symm, Nat.zero_le 1, nofun⟩
  | some bar =>
      cases readingAt sqrt params df i with
      | none => exact ⟨[], (List.append_nil _).symm, Nat.zero_le 1, nofun⟩
      | some reading =>
          dsimp only
          rw [trades_markEquity, trades_enter]
          cases due : dueExit params df i bar reading state with
          | none => exact ⟨[], (List.append_nil _).symm, Nat.zero_le 1, nofun⟩
          | some pair =>
              obtain ⟨held, exit⟩ := pair
              refine ⟨[tradeAt held exit], rfl, le_refl 1, ?_⟩
              intro trade member
              cases List.mem_singleton.mp member
              exact ⟨bar, rfl, exit_dated due⟩

theorem trades_prefix {count more : ℕ} (order : count ≤ more) :
    (stateAfter sqrt params df count).trades <+: (stateAfter sqrt params df more).trades := by
  induction more, order using Nat.le_induction with
  | base => exact List.prefix_refl _
  | succ more _ ih =>
      obtain ⟨closed, grown, _⟩ :=
        trades_stepAt sqrt params df more (stateAfter sqrt params df more)
      refine ih.trans ⟨closed, ?_⟩
      exact grown.symm

theorem trades_settled (sqrt : K → K) (params : Params K) (df : Frame K) :
    ∃ settled provisional,
      (backtestBBSqueeze sqrt df params).trades = settled ++ provisional ∧
        provisional.length ≤ 1 ∧ (∀ trade ∈ provisional, trade.exitDate = df.todayDate) ∧
        ∀ later, settled <+: (backtestBBSqueeze sqrt (df.append later) params).trades := by
  obtain ⟨count, length⟩ : ∃ count, df.length = count + 1 :=
    ⟨df.length - 1, (Nat.sub_add_cancel df.length_pos).symm⟩
  have last : df.bars[count]? = some df.lastBar := by
    have index : count = df.length - 1 := by omega
    rw [index]
    exact df.getElem?_last
  obtain ⟨provisional, grown, single, dated⟩ :=
    trades_stepAt sqrt params df count (stateAfter sqrt params df count)
  refine ⟨(stateAfter sqrt params df count).trades, provisional, ?_, single, ?_, ?_⟩
  · change (stateAfter sqrt params df df.length).trades = _
    rw [length]
    exact grown
  · intro trade member
    obtain ⟨bar, found, date⟩ := dated trade member
    rw [last] at found
    cases found
    have filled : df.fill count df.lastBar = (df.lastBar.close, df.lastBar.timestamp) := by
      have index : count = df.length - 1 := by omega
      rw [index]
      exact df.fill_last df.lastBar
    rw [filled] at date
    rcases date with date | date
    · exact date
    · exact date
  · intro later
    have kept : stateAfter sqrt params (df.append later) count = stateAfter sqrt params df count :=
      stateAfter_append later (by omega)
    rw [← kept]
    refine trades_prefix ?_
    rw [df.length_append]
    omega

end Growth

/-! ### The log of a backtest -/

/-- Trades one at a time, whose gains are what their prices tell up to rounding. -/
structure State.IsBooked (df : Frame K) (now : Date) (state : State K) : Prop where
  log : Sequential Trade.entryDate Trade.exitDate state.trades
    (state.position.map (fun held => held.entryDate.date)) now
  sized : ∀ trade ∈ state.trades, 0 < trade.qty
  priced : ∀ trade ∈ state.trades,
    |trade.pnl - (trade.exitPrice - trade.entryPrice) * trade.qty| ≤ (2 * trade.qty + 1) / 200
  entered : ∀ trade ∈ state.trades, trade.entryDate ∈ df.dates
  heldSized : ∀ held ∈ state.position, 0 < held.qty
  heldEntered : ∀ held ∈ state.position, held.entryDate.date ∈ df.dates

namespace State.IsBooked

variable [IsStrictOrderedRing K] {df : Frame K} {now : Date} {state : State K}

omit [FloorRing K] [IsStrictOrderedRing K] in
theorem start (df : Frame K) (now : Date) : State.start.IsBooked df now where
  log := Sequential.empty _ _ now
  sized := nofun
  priced := nofun
  entered := nofun
  heldSized := nofun
  heldEntered := nofun

variable (booked : state.IsBooked df now)
include booked

omit [FloorRing K] [IsStrictOrderedRing K] in
theorem wait {later : Date} (order : now ≤ later) : state.IsBooked df later :=
  { booked with log := booked.log.wait order }

omit [FloorRing K] [IsStrictOrderedRing K] in
theorem markEquity (bar : Bar K) :
    (BBSqueezeBacktest.markEquity bar state).IsBooked df now :=
  ⟨booked.log, booked.sized, booked.priced, booked.entered, booked.heldSized, booked.heldEntered⟩

theorem closeHeld {held : Position K} {exit : Exit K} (holds : state.position = some held)
    (order : now ≤ exit.date.date) :
    (BBSqueezeBacktest.close (some (held, exit)) state).IsBooked df exit.date.date := by
  have began := booked.log
  rw [holds] at began
  have makes : (tradeAt held exit).Makes held.entryPrice exit.price := ⟨rfl, rfl, rfl⟩
  exact
    { log := began.close rfl order
      sized := List.forall_mem_append.mpr
        ⟨booked.sized, List.forall_mem_singleton.mpr (booked.heldSized held holds)⟩
      priced := List.forall_mem_append.mpr
        ⟨booked.priced, List.forall_mem_singleton.mpr makes.priced⟩
      entered := List.forall_mem_append.mpr
        ⟨booked.entered, List.forall_mem_singleton.mpr (booked.heldEntered held holds)⟩
      heldSized := nofun
      heldEntered := nofun }

omit [IsStrictOrderedRing K] in
theorem enterAt (params : Params K) {fill : K × Timestamp} (order : now ≤ fill.2.date)
    (dated : fill.2.date ∈ df.dates) :
    ({ state with position := some (positionAt params fill) } : State K).IsBooked df
      fill.2.date where
  log := booked.log.enter order
  sized := booked.sized
  priced := booked.priced
  entered := booked.entered
  heldSized := by
    intro held entered
    cases entered
    exact LotSizing.units_pos _ _
  heldEntered := by
    intro held entered
    cases entered
    exact dated

end State.IsBooked

omit [FloorRing K] in
theorem dateAt_mem (df : Frame K) (count : ℕ) :
    dateAt df.dates df.todayDate count ∈ df.dates := by
  unfold dateAt
  cases found : df.dates[count]? with
  | none => exact List.mem_of_getLast? df.dates_getLast?
  | some date => exact List.mem_of_getElem? found

section Log

variable [IsStrictOrderedRing K] {sqrt : K → K} {params : Params K} {df : Frame K} {i : ℕ}
  {state : State K}

theorem isBooked_close {bar : Bar K} {reading : Reading K} (daily : df.Daily)
    (found : df.bars[i]? = some bar)
    (booked : state.IsBooked df (dateAt df.dates df.todayDate i)) :
    (close (dueExit params df i bar reading state) state).IsBooked df
      (dateAt df.dates df.todayDate (i + 1)) := by
  have inside : i < df.dates.length := by
    unfold Frame.dates
    rw [List.length_map]
    exact (List.getElem?_eq_some_iff.mp found).1
  have order := dateAt_le_succ daily.dates df.dates_getLast? inside
  have today := Frame.dateAt_of_getElem? found
  have tomorrow := Frame.fill_date found
  cases due : dueExit params df i bar reading state with
  | none => exact booked.wait order
  | some pair =>
      obtain ⟨held, exit⟩ := pair
      obtain ⟨held', holds, made⟩ := Option.bind_eq_some_iff.mp due
      obtain ⟨exit', _, same⟩ := Option.map_eq_some_iff.mp made
      cases same
      -- A stop closes on the bar itself, the other exits at its fill.
      rcases exit_dated due with date | date
      · refine (booked.closeHeld holds ?_).wait ?_
        · rw [date, today]
        · rw [date, ← today]
          exact order
      · rw [tomorrow] at date
        rw [← date]
        refine booked.closeHeld holds ?_
        rw [date]
        exact order

theorem isBooked_stepAt (daily : df.Daily) (inside : i < df.length)
    (booked : state.IsBooked df (dateAt df.dates df.todayDate i)) :
    (stepAt sqrt params df i state).IsBooked df (dateAt df.dates df.todayDate (i + 1)) := by
  have found : df.bars[i]? = some df.bars[i] := List.getElem?_eq_getElem inside
  unfold stepAt
  rw [found]
  cases readingAt sqrt params df i with
  | none =>
      refine booked.wait (dateAt_le_succ daily.dates df.dates_getLast? ?_)
      unfold Frame.dates
      rw [List.length_map]
      exact inside
  | some reading =>
      have closed : (close (dueExit params df i df.bars[i] reading state) state).IsBooked df
          (dateAt df.dates df.todayDate (i + 1)) :=
        isBooked_close daily found booked
      have filled := Frame.fill_date found
      refine State.IsBooked.markEquity ?_ _
      unfold enter
      split_ifs
      · rw [← filled]
        refine closed.enterAt params (le_of_eq filled.symm) ?_
        rw [filled]
        exact dateAt_mem df (i + 1)
      · exact closed

theorem isBooked_stateAfter (sqrt : K → K) (params : Params K) (daily : df.Daily) :
    (stateAfter sqrt params df df.length).IsBooked df df.todayDate := by
  have booked : (stateAfter sqrt params df df.length).IsBooked df
      (dateAt df.dates df.todayDate df.length) :=
    RangeLoop.loop_invariant (stepAt sqrt params df) State.start
      (fun i state => state.IsBooked df (dateAt df.dates df.todayDate i)) df.length
      (State.IsBooked.start df _)
      (fun _i _state inside booked => isBooked_stepAt daily inside booked)
  rw [df.dateAt_length] at booked
  exact booked

end Log

/-! ### Backtests on rows -/

/-- A result in which only a trade of the last row may still change. -/
def Result.SettledIn (result longer : Result K) (lastDate : Date) : Prop :=
  ∃ settled provisional, result.trades = settled ++ provisional ∧ provisional.length ≤ 1 ∧
    (∀ trade ∈ provisional, trade.exitDate = lastDate) ∧ settled <+: longer.trades

theorem backtestRows_of_cons (sqrt : K → K) (params : Params K) (rows : List (Bar K))
    (nonempty : rows ≠ []) :
    backtestRows sqrt rows params =
      backtestBBSqueeze sqrt { bars := rows, nonempty := nonempty } params :=
  dif_pos nonempty

theorem rows_settled (sqrt : K → K) (params : Params K) {rows : List (Bar K)} {lastDate : Date}
    (isLast : ∀ last ∈ rows.getLast?, last.timestamp.date = lastDate) (later : List (Bar K)) :
    (backtestRows sqrt rows params).SettledIn (backtestRows sqrt (rows ++ later) params)
      lastDate := by
  by_cases nonempty : rows = []
  · subst nonempty
    exact ⟨[], [], rfl, Nat.zero_le 1, nofun, List.nil_prefix⟩
  · obtain ⟨settled, provisional, grown, single, dated, kept⟩ :=
      trades_settled sqrt params { bars := rows, nonempty := nonempty }
    rw [backtestRows_of_cons sqrt params rows nonempty,
      backtestRows_of_cons sqrt params (rows ++ later)
        (List.append_ne_nil_of_left_ne_nil nonempty later)]
    refine ⟨settled, provisional, grown, single, ?_, kept later⟩
    intro trade member
    rw [dated trade member]
    exact isLast _ (List.getLast?_eq_some_getLast nonempty)

theorem rows_log [IsStrictOrderedRing K] (sqrt : K → K) (params : Params K)
    {rows : List (Bar K)} {now : Date}
    (daily : rows.Pairwise (fun earlier later => earlier.timestamp.date < later.timestamp.date))
    (finished : ∀ bar ∈ rows, bar.timestamp.date ≤ now) :
    let trades := (backtestRows sqrt rows params).trades
    Sequential Trade.entryDate Trade.exitDate trades none now ∧
      ∀ trade ∈ trades, (∃ bar ∈ rows, bar.timestamp.date = trade.entryDate) ∧ 0 < trade.qty ∧
        |trade.pnl - (trade.exitPrice - trade.entryPrice) * trade.qty| ≤
          (2 * trade.qty + 1) / 200 := by
  by_cases nonempty : rows = []
  · subst nonempty
    exact ⟨Sequential.empty _ _ now, nofun⟩
  · rw [backtestRows_of_cons sqrt params rows nonempty]
    have days : Frame.Daily { bars := rows, nonempty := nonempty } := daily
    have booked := isBooked_stateAfter sqrt params days
    refine ⟨booked.log.drop.wait ?_, ?_⟩
    · exact finished _ (List.getLast_mem nonempty)
    · intro trade member
      exact ⟨List.mem_map.mp (booked.entered trade member), booked.sized trade member,
        booked.priced trade member⟩

/-! ### The two periods -/

section Periods

variable {stop : Date} {df : Frame K}

omit [FloorRing K] in
theorem date_lt_iff {bar : Bar K} :
    bar.timestamp.seconds < stop * 86400 ↔ bar.timestamp.date < stop :=
  (Int.ediv_lt_iff_lt_mul (by decide)).symm

omit [FloorRing K] in
theorem le_date_iff {bar : Bar K} :
    stop * 86400 ≤ bar.timestamp.seconds ↔ stop ≤ bar.timestamp.date :=
  (Int.le_ediv_iff_mul_le (by decide)).symm

omit [FloorRing K] in
theorem mem_trainRows_iff {bar : Bar K} :
    bar ∈ trainRows stop df ↔ bar ∈ df.bars ∧ bar.timestamp.date < stop := by
  unfold trainRows
  rw [List.mem_filter, decide_eq_true_iff, date_lt_iff]

omit [FloorRing K] in
theorem mem_testRows_iff {bar : Bar K} :
    bar ∈ testRows stop df ↔ bar ∈ df.bars ∧ stop ≤ bar.timestamp.date := by
  unfold testRows
  rw [List.mem_filter, decide_eq_true_iff, le_date_iff]

omit [FloorRing K] in
theorem rows_append {later : List (Bar K)}
    (afterStop : ∀ bar ∈ later, stop ≤ bar.timestamp.date) :
    trainRows stop (df.append later) = trainRows stop df ∧
      testRows stop (df.append later) = testRows stop df ++ later := by
  have noTraining : later.filter (fun bar => bar.timestamp.seconds < stop * 86400) = [] := by
    refine List.filter_eq_nil_iff.mpr ?_
    intro bar member
    rw [decide_eq_true_iff, date_lt_iff, not_lt]
    exact afterStop bar member
  have allTest : later.filter (fun bar => stop * 86400 ≤ bar.timestamp.seconds) = later := by
    refine List.filter_eq_self.mpr ?_
    intro bar member
    rw [decide_eq_true_iff, le_date_iff]
    exact afterStop bar member
  constructor
  · change (df.bars ++ later).filter _ = _
    rw [List.filter_append, noTraining, List.append_nil]
    rfl
  · change (df.bars ++ later).filter _ = _
    rw [List.filter_append, allTest]
    rfl

omit [FloorRing K] in
theorem date_le_today (daily : df.Daily) {bar : Bar K} (member : bar ∈ df.bars) :
    bar.timestamp.date ≤ df.todayDate := by
  obtain ⟨i, inside, rfl⟩ := List.mem_iff_getElem.mp member
  have within : i < df.length := inside
  have found : df.bars[df.length - 1]? = some df.lastBar := df.getElem?_last
  by_cases last : i = df.length - 1
  · subst last
    rw [List.getElem?_eq_getElem inside] at found
    rw [Option.some.inj found]
    exact le_refl _
  · exact le_of_lt (daily.date_lt_today (by omega) (List.getElem?_eq_getElem inside))

omit [FloorRing K] in
theorem getLast_testRows (daily : df.Daily) {last : Bar K}
    (isLast : last ∈ (testRows stop df).getLast?) : last.timestamp.date = df.todayDate := by
  obtain ⟨inside, afterStop⟩ := mem_testRows_iff.mp (List.mem_of_getLast? isLast)
  obtain ⟨early, split⟩ : ∃ early, df.bars = early ++ [df.lastBar] :=
    ⟨df.bars.dropLast, (List.dropLast_append_getLast df.nonempty).symm⟩
  have latest : last.timestamp.date ≤ df.todayDate := date_le_today daily inside
  have kept : testRows stop df =
      early.filter (fun bar => stop * 86400 ≤ bar.timestamp.seconds) ++ [df.lastBar] := by
    unfold testRows
    rw [split, List.filter_append, List.filter_singleton]
    rw [decide_eq_true (le_date_iff.mpr (le_trans afterStop latest))]
    rfl
  rw [kept, List.getLast?_concat] at isLast
  cases isLast
  rfl

end Periods

/-! ### The sweep as a whole -/

section Law

variable (sqrt : K → K) (combos : List (Params K)) (stop : Date) (df : Frame K)

def trained (params : Params K) : Result K :=
  backtestRows sqrt (trainRows stop df) params

/-- What `run_sweep_for_symbol` promises: how it chooses, that the test period has no say in it,
that the trades of both periods follow one another, and what later rows may still change. -/
structure SweepLaw : Prop where
  none_iff : runSweepForSymbol sqrt combos stop df = none ↔
    ∀ params ∈ combos, (trained sqrt stop df params).tradeCount < 8
  results : ∀ sweep ∈ runSweepForSymbol sqrt combos stop df,
    sweep.train = trained sqrt stop df sweep.bestParams ∧
      sweep.test = backtestRows sqrt (testRows stop df) sweep.bestParams
  chosen : ∀ sweep ∈ runSweepForSymbol sqrt combos stop df, 8 ≤ sweep.train.tradeCount ∧
    ∃ before after, combos = before ++ sweep.bestParams :: after ∧
      (∀ params ∈ before, 8 ≤ (trained sqrt stop df params).tradeCount →
        (trained sqrt stop df params).realizedPnl < sweep.train.realizedPnl) ∧
      ∀ params ∈ after, 8 ≤ (trained sqrt stop df params).tradeCount →
        (trained sqrt stop df params).realizedPnl ≤ sweep.train.realizedPnl
  sequential : ∀ sweep ∈ runSweepForSymbol sqrt combos stop df,
    (sweep.train.trades ++ sweep.test.trades).Pairwise
        (fun earlier later => earlier.exitDate ≤ later.entryDate) ∧
      (∀ trade ∈ sweep.train.trades, trade.exitDate < stop) ∧
      ∀ trade ∈ sweep.test.trades, stop ≤ trade.entryDate
  explained : ∀ sweep ∈ runSweepForSymbol sqrt combos stop df,
    ∀ trade ∈ sweep.train.trades ++ sweep.test.trades,
      trade.entryDate ≤ trade.exitDate ∧ 0 < trade.qty ∧
        |trade.pnl - (trade.exitPrice - trade.entryPrice) * trade.qty| ≤
          (2 * trade.qty + 1) / 200
  grown : ∀ later, (∀ bar ∈ later, stop ≤ bar.timestamp.date) →
    (runSweepForSymbol sqrt combos stop df = none →
      runSweepForSymbol sqrt combos stop (df.append later) = none) ∧
    ∀ sweep ∈ runSweepForSymbol sqrt combos stop df,
      ∃ longer ∈ runSweepForSymbol sqrt combos stop (df.append later),
        longer.bestParams = sweep.bestParams ∧ longer.train = sweep.train ∧
          sweep.test.SettledIn longer.test df.todayDate

variable {sqrt combos stop df}

theorem runSweepForSymbol_eq_some_iff {sweep : Sweep K} :
    runSweepForSymbol sqrt combos stop df = some sweep ↔
      FirstBest.firstBest isEligible trainPnl
          (combos.map (fun params => (params, trained sqrt stop df params))) =
        some (sweep.bestParams, sweep.train) ∧
      sweep.test = backtestRows sqrt (testRows stop df) sweep.bestParams := by
  unfold runSweepForSymbol
  rw [Option.map_eq_some_iff]
  constructor
  · intro picked
    obtain ⟨found, best, made⟩ := picked
    subst made
    exact ⟨best, rfl⟩
  · intro picked
    obtain ⟨best, test⟩ := picked
    refine ⟨(sweep.bestParams, sweep.train), best, ?_⟩
    dsimp only
    rw [← test]

theorem runSweepForSymbol_eq_none_iff :
    runSweepForSymbol sqrt combos stop df = none ↔
      ∀ params ∈ combos, (trained sqrt stop df params).tradeCount < 8 := by
  have searched : runSweepForSymbol sqrt combos stop df = none ↔
      FirstBest.firstBest isEligible trainPnl
        (combos.map (fun params => (params, trained sqrt stop df params))) = none :=
    Option.map_eq_none_iff
  rw [searched, FirstBest.firstBest_eq_none_iff, List.forall_mem_map]
  refine forall₂_congr ?_
  intro params _
  unfold isEligible
  rw [decide_eq_false_iff_not, not_le]

theorem chosen_of_sweep {sweep : Sweep K}
    (picked : runSweepForSymbol sqrt combos stop df = some sweep) :
    sweep.train = trained sqrt stop df sweep.bestParams ∧ 8 ≤ sweep.train.tradeCount ∧
      ∃ before after, combos = before ++ sweep.bestParams :: after ∧
        (∀ params ∈ before, 8 ≤ (trained sqrt stop df params).tradeCount →
          (trained sqrt stop df params).realizedPnl < sweep.train.realizedPnl) ∧
        ∀ params ∈ after, 8 ≤ (trained sqrt stop df params).tradeCount →
          (trained sqrt stop df params).realizedPnl ≤ sweep.train.realizedPnl := by
  have best := FirstBest.chosen_of_firstBest (runSweepForSymbol_eq_some_iff.mp picked).1
  obtain ⟨before, after, split, better, good⟩ := best.split
  obtain ⟨earlier, rest, whole, mapped, tail⟩ := List.map_eq_append_iff.mp split
  obtain ⟨params, following, shape, entry, remaining⟩ := List.map_eq_cons_iff.mp tail
  obtain ⟨same, result⟩ := Prod.mk.inj entry
  subst same mapped remaining
  refine ⟨result.symm, of_decide_eq_true best.admitted, earlier, following, ?_, ?_, ?_⟩
  · rw [whole, shape]
  · intro other member enough
    exact better _ (List.mem_map_of_mem member) (decide_eq_true enough)
  · intro other member enough
    exact good _ (List.mem_map_of_mem member) (decide_eq_true enough)

/-- What the script's own sweep deploys comes from its grid, so it holds ten to thirty days. -/
theorem deployed_of_grid {sweep : Sweep K}
    (picked : runSweepForSymbol sqrt paramGrid trainEnd df = some sweep) :
    sweep.bestParams ∈ paramGrid ∧ 10 ≤ sweep.bestParams.maxHoldDays ∧
      sweep.bestParams.maxHoldDays ≤ 30 := by
  obtain ⟨_, _, before, after, split, _⟩ := chosen_of_sweep picked
  have member : sweep.bestParams ∈ paramGrid := by
    rw [split]
    exact List.mem_append_right before List.mem_cons_self
  refine ⟨member, ?_⟩
  obtain ⟨threshold, _, stops⟩ := List.mem_flatMap.mp member
  obtain ⟨stopLoss, _, holds⟩ := List.mem_flatMap.mp stops
  obtain ⟨maxHold, listed, made⟩ := List.mem_map.mp holds
  have bounds : ∀ days ∈ [(10 : ℤ), 20, 30], 10 ≤ days ∧ days ≤ 30 := by decide
  rw [← made]
  exact bounds maxHold listed

theorem trained_append {later : List (Bar K)}
    (afterStop : ∀ bar ∈ later, stop ≤ bar.timestamp.date) :
    trained sqrt stop (df.append later) = trained sqrt stop df := by
  unfold trained
  rw [(rows_append afterStop).1]

theorem sweep_append (daily : df.Daily) {later : List (Bar K)}
    (afterStop : ∀ bar ∈ later, stop ≤ bar.timestamp.date) {sweep : Sweep K}
    (picked : runSweepForSymbol sqrt combos stop df = some sweep) :
    ∃ longer ∈ runSweepForSymbol sqrt combos stop (df.append later),
      longer.bestParams = sweep.bestParams ∧ longer.train = sweep.train ∧
        sweep.test.SettledIn longer.test df.todayDate := by
  obtain ⟨best, test⟩ := runSweepForSymbol_eq_some_iff.mp picked
  let longer : Sweep K :=
    { bestParams := sweep.bestParams
      train := sweep.train
      test := backtestRows sqrt (testRows stop (df.append later)) sweep.bestParams }
  have found : runSweepForSymbol sqrt combos stop (df.append later) = some longer := by
    refine runSweepForSymbol_eq_some_iff.mpr ⟨?_, rfl⟩
    rw [trained_append afterStop]
    exact best
  refine ⟨longer, found, rfl, rfl, ?_⟩
  change sweep.test.SettledIn (backtestRows sqrt (testRows stop (df.append later)) _) _
  rw [test, (rows_append afterStop).2]
  exact rows_settled sqrt sweep.bestParams (fun _last isLast => getLast_testRows daily isLast) later

/-- The trades of the training are over before the end of its period, and those of the test are
entered from then on. -/
theorem logs_of_sweep [IsStrictOrderedRing K] (daily : df.Daily) {sweep : Sweep K}
    (picked : runSweepForSymbol sqrt combos stop df = some sweep) :
    (sweep.train.trades ++ sweep.test.trades).Pairwise
        (fun earlier later => earlier.exitDate ≤ later.entryDate) ∧
      (∀ trade ∈ sweep.train.trades, trade.exitDate < stop) ∧
      (∀ trade ∈ sweep.test.trades, stop ≤ trade.entryDate) ∧
      ∀ trade ∈ sweep.train.trades ++ sweep.test.trades,
        trade.entryDate ≤ trade.exitDate ∧ 0 < trade.qty ∧
          |trade.pnl - (trade.exitPrice - trade.entryPrice) * trade.qty| ≤
            (2 * trade.qty + 1) / 200 := by
  have ordered : df.bars.Pairwise (fun earlier later =>
      earlier.timestamp.date < later.timestamp.date) := daily
  have early (bar : Bar K) (member : bar ∈ trainRows stop df) :
      bar.timestamp.date ≤ stop - 1 :=
    Int.le_sub_one_of_lt (mem_trainRows_iff.mp member).2
  have latest (bar : Bar K) (member : bar ∈ testRows stop df) :
      bar.timestamp.date ≤ df.todayDate :=
    date_le_today daily (mem_testRows_iff.mp member).1
  obtain ⟨trainLog, trainTrades⟩ :=
    rows_log sqrt sweep.bestParams (ordered.filter _) early
  obtain ⟨testLog, testTrades⟩ :=
    rows_log sqrt sweep.bestParams (ordered.filter _) latest
  have trainResult : sweep.train = backtestRows sqrt (trainRows stop df) sweep.bestParams :=
    (chosen_of_sweep picked).1
  have testResult := (runSweepForSymbol_eq_some_iff.mp picked).2
  rw [trainResult, testResult]
  have ended (trade : Trade K)
      (member : trade ∈ (backtestRows sqrt (trainRows stop df) sweep.bestParams).trades) :
      trade.exitDate < stop :=
    Int.lt_of_le_sub_one (trainLog.finished trade member)
  have begun (trade : Trade K)
      (member : trade ∈ (backtestRows sqrt (testRows stop df) sweep.bestParams).trades) :
      stop ≤ trade.entryDate := by
    obtain ⟨bar, listed, date⟩ := (testTrades trade member).1
    rw [← date]
    exact (mem_testRows_iff.mp listed).2
  refine ⟨?_, ended, begun, ?_⟩
  · refine List.pairwise_append.mpr ⟨trainLog.apart, testLog.apart, ?_⟩
    intro earlier old later new
    exact le_of_lt (lt_of_lt_of_le (ended earlier old) (begun later new))
  · intro trade member
    rcases List.mem_append.mp member with old | new
    · exact ⟨trainLog.forward trade old, (trainTrades trade old).2⟩
    · exact ⟨testLog.forward trade new, (testTrades trade new).2⟩

theorem runSweepForSymbol_sweepLaw [IsStrictOrderedRing K] (sqrt : K → K)
    (combos : List (Params K)) (stop : Date) {df : Frame K} (daily : df.Daily) :
    SweepLaw sqrt combos stop df where
  none_iff := runSweepForSymbol_eq_none_iff
  results := fun _sweep picked =>
    ⟨(chosen_of_sweep picked).1, (runSweepForSymbol_eq_some_iff.mp picked).2⟩
  chosen := fun _sweep picked => (chosen_of_sweep picked).2
  sequential := by
    intro sweep picked
    obtain ⟨apart, ended, begun, _⟩ := logs_of_sweep daily picked
    exact ⟨apart, ended, begun⟩
  explained := fun _sweep picked => (logs_of_sweep daily picked).2.2.2
  grown := by
    intro later afterStop
    constructor
    · intro nothing
      rw [runSweepForSymbol_eq_none_iff, trained_append afterStop]
      exact runSweepForSymbol_eq_none_iff.mp nothing
    · exact fun _sweep picked => sweep_append daily afterStop picked

end Law

/-! ### Two sets of parameters, one of which trades enough -/

/-- Each spike doubles the one before it, in the training of thirty-eight days and again in the
test. -/
def doublingFrame : Frame ℚ :=
  { bars :=
      ((List.replicate 20 0 ++ [1, 0, 3, 0, 7, 0, 15, 0, 31, 0, 63, 0, 127, 0, 255, 0, 511, 0] ++
        List.replicate 20 0 ++ [1, 0, 3, 0, 7]).zipIdx 20000).map
          (fun quote : ℕ × ℕ => BBSqueezeTrader.flatBar quote.2 quote.1)
    nonempty := List.cons_ne_nil _ _ }

/-- Parameters that hold for a day. -/
def eagerParams : Params ℚ :=
  { squeezeThreshold := 100
    stopLossPct := 5
    maxHoldDays := 0 }

theorem doublingFrame_sweep :
    ∃ sweep, runSweepForSymbol Rat.sqrt [BBSqueezeTrader.squeezeParams, eagerParams] 20038
        doublingFrame = some sweep ∧
      (sweep.train.tradeCount, sweep.test.tradeCount) = (9, 2) ∧
      (sweep.train.trades ++ sweep.test.trades).Pairwise
        (fun earlier later => earlier.exitDate ≤ later.entryDate) := by
  have selected : (runSweepForSymbol Rat.sqrt [BBSqueezeTrader.squeezeParams, eagerParams] 20038
      doublingFrame).map (fun sweep => (sweep.train.tradeCount, sweep.test.tradeCount)) =
        some (9, 2) := by
    decide +kernel
  obtain ⟨sweep, picked, counts⟩ := Option.map_eq_some_iff.mp selected
  have daily : doublingFrame.Daily := by decide +kernel
  have law := runSweepForSymbol_sweepLaw Rat.sqrt [BBSqueezeTrader.squeezeParams, eagerParams]
    20038 daily
  exact ⟨sweep, picked, counts, (law.sequential sweep picked).1⟩

end TradingEngine.BBSqueezeBacktest
