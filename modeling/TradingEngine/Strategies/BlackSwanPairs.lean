/-
`BlackSwanPairsStrategy`, which holds a spread for days.

The strategy joins the bars of its two legs by their timestamps and scores the newest ratio
of the closes against a rolling window.  Neither the end of a day nor a stop resets it.
-/

import TradingEngine.General.BoundedHistory
import TradingEngine.General.PositionTracking
import TradingEngine.General.SampleStatistics
import TradingEngine.General.SeriesJoin
import TradingEngine.Strategies.Intraday

namespace TradingEngine.BlackSwanPairs

open BoundedHistory Domain Intraday SeriesJoin
open PairsTrading (Spread)
open Signals (Side)

/-- `BlackSwanPairsConfig` with what `__post_init__` checks. -/
structure Config where
  strategyId : String := "black_swan_pairs"
  symbolA : String := "HDFCBANK"
  symbolB : String := "HDFCLIFE"
  quantityA : ℤ := 100
  quantityB : ℤ := 90
  windowSize : ℕ := 120
  entryZScore : ℚ := 7 / 2
  exitZScore : ℚ := 0
  stopLossZScore : ℚ := 5
  quantityA_pos : 0 < quantityA := by decide
  quantityB_pos : 0 < quantityB := by decide
  one_lt_window : 1 < windowSize := by decide
  exit_lt_entry : exitZScore < entryZScore := by norm_num
  entry_lt_stop : entryZScore < stopLossZScore := by norm_num

/-- `_PairState`. -/
structure PairState where
  lastBarA : Option Domain.Bar
  lastBarB : Option Domain.Bar
  ratioHistory : List ℚ
  position : Option Spread

def PairState.start : PairState :=
  { lastBarA := none
    lastBarB := none
    ratioHistory := []
    position := none }

namespace Config

variable (config : Config)

def leg (symbol exchange : String) (side : Side) (quantity : ℤ) (quantity_pos : 0 < quantity)
    (reason : String) : Intent :=
  { PairsTrading.legIntent config.strategyId symbol exchange side quantity quantity_pos with
    product := .cnc
    reason := reason }

/-- `_create_intents`. -/
def createIntents (sideA sideB : Side) (exchange reason : String) : List Intent :=
  [config.leg config.symbolA exchange sideA config.quantityA config.quantityA_pos reason,
    config.leg config.symbolB exchange sideB config.quantityB config.quantityB_pos reason]

/-- `_close_position_intents`. -/
def closePositionIntents (position : Spread) (exchange reason : String) : List Intent :=
  match position with
  | .long => config.createIntents .sell .buy exchange reason
  | .short => config.createIntents .buy .sell exchange reason

def onZScore (z : ℚ) (exchange : String) (position : Option Spread) :
    List Intent × Option Spread :=
  match position with
  | some .long =>
      if z ≤ -config.stopLossZScore then
        (config.closePositionIntents .long exchange "pairs_stop_loss", none)
      else if -config.exitZScore ≤ z then
        (config.closePositionIntents .long exchange "pairs_exit_long", none)
      else ([], some .long)
  | some .short =>
      if config.stopLossZScore ≤ z then
        (config.closePositionIntents .short exchange "pairs_stop_loss", none)
      else if z ≤ config.exitZScore then
        (config.closePositionIntents .short exchange "pairs_exit_short", none)
      else ([], some .short)
  | none =>
      if z ≤ -config.entryZScore then
        (config.createIntents .buy .sell exchange "pairs_entry_long", some .long)
      else if config.entryZScore ≤ z then
        (config.createIntents .sell .buy exchange "pairs_entry_short", some .short)
      else ([], none)

/-- The score of the newest ratio against the window that it is in. -/
def zScore (sqrt : ℚ → ℚ) (currentRatio : ℚ) (ratioHistory : List ℚ) : Option ℚ :=
  if ratioHistory.length < config.windowSize then none
  else
    let meanRatio := SampleStatistics.mean ratioHistory
    let stdevRatio := SampleStatistics.stdev sqrt ratioHistory
    if stdevRatio = 0 then none else some ((currentRatio - meanRatio) / stdevRatio)

/-- The part of `on_bar` after both last bars are found to carry one timestamp. -/
def onPair (sqrt : ℚ → ℚ) (exchange : String) (barA barB : Domain.Bar) (state : PairState) :
    List Intent × PairState :=
  if barB.close = 0 then ([], state)
  else
    let currentRatio := barA.close / barB.close
    let extended := state.ratioHistory ++ [currentRatio]
    let ratioHistory := if config.windowSize < extended.length then extended.tail else extended
    match config.zScore sqrt currentRatio ratioHistory with
    | none => ([], { state with ratioHistory := ratioHistory })
    | some z =>
        let (intents, position) := config.onZScore z exchange state.position
        (intents,
          { state with
            ratioHistory := ratioHistory
            position := position })

def storeBar (bar : Domain.Bar) (state : PairState) : PairState :=
  if bar.symbol = config.symbolA then { state with lastBarA := some bar }
  else { state with lastBarB := some bar }

def onBar (sqrt : ℚ → ℚ) (bar : Domain.Bar) (state : PairState) : List Intent × PairState :=
  if bar.symbol ≠ config.symbolA ∧ bar.symbol ≠ config.symbolB then ([], state)
  else
    let stored := config.storeBar bar state
    match stored.lastBarA, stored.lastBarB with
    | some barA, some barB =>
        if barA.timestamp = barB.timestamp then
          config.onPair sqrt bar.exchange barA barB stored
        else ([], stored)
    | _, _ => ([], stored)

def machine (sqrt : ℚ → ℚ) : EventMachine Domain.Bar PairState (List Intent) :=
  { start := PairState.start
    step := config.onBar sqrt }

/-! ### What is ordered is what is held -/

def heldQuantity (position : Option Spread) (symbol : String) : ℤ :=
  match position with
  | none => 0
  | some .long => (if config.symbolA = symbol then config.quantityA else 0) +
      if config.symbolB = symbol then -config.quantityB else 0
  | some .short => (if config.symbolA = symbol then -config.quantityA else 0) +
      if config.symbolB = symbol then config.quantityB else 0

def flow (answer : List Intent) (symbol : String) : ℤ :=
  netQuantity symbol (answer.map Intent.toOrderIntent)

theorem flow_createIntents (sideA sideB : Side) (exchange reason symbol : String) :
    flow (config.createIntents sideA sideB exchange reason) symbol =
      (if config.symbolA = symbol then
          (match sideA with | .buy => config.quantityA | .sell => -config.quantityA) else 0) +
        if config.symbolB = symbol then
          (match sideB with | .buy => config.quantityB | .sell => -config.quantityB) else 0 := by
  have split : ∀ first second : Intent, flow [first, second] symbol =
      netQuantity symbol [first.toOrderIntent] + netQuantity symbol [second.toOrderIntent] :=
    fun first second => netQuantity_append symbol [first.toOrderIntent] [second.toOrderIntent]
  rw [createIntents, split, netQuantity_singleton, netQuantity_singleton]
  rfl

theorem flow_closePositionIntents (spread : Spread) (exchange reason symbol : String) :
    config.heldQuantity (some spread) symbol +
      flow (config.closePositionIntents spread exchange reason) symbol = 0 := by
  unfold heldQuantity closePositionIntents
  cases spread with
  | long =>
      dsimp only
      rw [flow_createIntents]
      dsimp only
      split_ifs <;> omega
  | short =>
      dsimp only
      rw [flow_createIntents]
      dsimp only
      split_ifs <;> omega

theorem heldQuantity_onZScore (z : ℚ) (exchange symbol : String) (position : Option Spread) :
    config.heldQuantity (config.onZScore z exchange position).2 symbol =
      config.heldQuantity position symbol +
        flow (config.onZScore z exchange position).1 symbol := by
  have quiet : ∀ held, config.heldQuantity held symbol =
      config.heldQuantity held symbol + flow [] symbol := fun held => (add_zero _).symm
  have closed : ∀ spread reason, config.heldQuantity none symbol =
      config.heldQuantity (some spread) symbol +
        flow (config.closePositionIntents spread exchange reason) symbol :=
    fun spread reason => (config.flow_closePositionIntents spread exchange reason symbol).symm
  unfold onZScore
  cases position with
  | none =>
      dsimp only
      split_ifs
      · rw [flow_createIntents]
        exact (zero_add _).symm
      · rw [flow_createIntents]
        exact (zero_add _).symm
      · exact quiet none
  | some spread =>
      cases spread with
      | long =>
          dsimp only
          split_ifs
          · exact closed .long _
          · exact closed .long _
          · exact quiet (some .long)
      | short =>
          dsimp only
          split_ifs
          · exact closed .short _
          · exact closed .short _
          · exact quiet (some .short)

variable {config} {sqrt : ℚ → ℚ}

theorem onBar_of_foreign {bar : Domain.Bar}
    (foreign : bar.symbol ≠ config.symbolA ∧ bar.symbol ≠ config.symbolB) (state : PairState) :
    config.onBar sqrt bar state = ([], state) :=
  if_pos foreign

theorem onBar_of_leg {bar : Domain.Bar}
    (leg : ¬(bar.symbol ≠ config.symbolA ∧ bar.symbol ≠ config.symbolB)) (state : PairState) :
    config.onBar sqrt bar state =
      match matched Domain.Bar.timestamp Domain.Bar.timestamp
          (config.storeBar bar state).lastBarA (config.storeBar bar state).lastBarB with
      | none => ([], config.storeBar bar state)
      | some pair => config.onPair sqrt bar.exchange pair.1 pair.2 (config.storeBar bar state) := by
  unfold onBar matched
  rw [if_neg leg]
  dsimp only
  cases (config.storeBar bar state).lastBarA with
  | none => rfl
  | some barA =>
      cases (config.storeBar bar state).lastBarB with
      | none => rfl
      | some barB =>
          dsimp only
          by_cases same : barA.timestamp = barB.timestamp
          · rw [if_pos same, if_pos same.symm]
          · rw [if_neg same, if_neg (Ne.symm same)]

theorem heldQuantity_onPair (exchange symbol : String) (barA barB : Domain.Bar)
    (state : PairState) :
    config.heldQuantity (config.onPair sqrt exchange barA barB state).2.position symbol =
      config.heldQuantity state.position symbol +
        flow (config.onPair sqrt exchange barA barB state).1 symbol := by
  unfold onPair
  split_ifs
  · exact (add_zero _).symm
  · dsimp only
    split
    · exact (add_zero _).symm
    · exact config.heldQuantity_onZScore _ exchange symbol state.position

theorem lastBars_onPair (config : Config) (sqrt : ℚ → ℚ) (exchange : String)
    (barA barB : Domain.Bar) (state : PairState) :
    (config.onPair sqrt exchange barA barB state).2.lastBarA = state.lastBarA ∧
      (config.onPair sqrt exchange barA barB state).2.lastBarB = state.lastBarB := by
  unfold onPair
  split_ifs
  · exact ⟨rfl, rfl⟩
  · dsimp only
    split <;> exact ⟨rfl, rfl⟩

theorem position_storeBar (config : Config) (bar : Domain.Bar) (state : PairState) :
    (config.storeBar bar state).position = state.position := by
  unfold storeBar
  split_ifs <;> rfl

theorem books (config : Config) (sqrt : ℚ → ℚ) :
    PositionTracking.Books (config.machine sqrt) flow
      (fun state => config.heldQuantity state.position) (fun _state _event _symbol => 0) where
  start := fun _symbol => rfl
  step := by
    intro bar state symbol
    change config.heldQuantity (config.onBar sqrt bar state).2.position symbol =
      config.heldQuantity state.position symbol - 0 +
        flow (config.onBar sqrt bar state).1 symbol
    rw [sub_zero]
    by_cases foreign : bar.symbol ≠ config.symbolA ∧ bar.symbol ≠ config.symbolB
    · rw [onBar_of_foreign foreign]
      exact (add_zero _).symm
    · rw [onBar_of_leg foreign, ← config.position_storeBar bar state]
      split
      · exact (add_zero _).symm
      · exact heldQuantity_onPair bar.exchange symbol _ _ _

/-- Whatever bars come in whatever order, what was ordered in a symbol is what the spread
holds of it. -/
theorem tracks (config : Config) (sqrt : ℚ → ℚ) (bars : List Domain.Bar) :
    PositionTracking.Tracks (config.machine sqrt) flow
      (fun state => config.heldQuantity state.position) bars :=
  (config.books sqrt).tracks_of_lossless (fun _state _event _symbol => rfl) bars

/-! ### Rows of the joined legs -/

def legA (config : Config) (bars : List Domain.Bar) : List Domain.Bar :=
  bars.filter (fun bar => bar.symbol = config.symbolA)

def legB (config : Config) (bars : List Domain.Bar) : List Domain.Bar :=
  bars.filter (fun bar => bar.symbol ≠ config.symbolA ∧ bar.symbol = config.symbolB)

/-- The bars of both legs that carry one timestamp, in the order of the first leg. -/
def rows (config : Config) (bars : List Domain.Bar) : List (Domain.Bar × Domain.Bar) :=
  joined Domain.Bar.timestamp Domain.Bar.timestamp (config.legA bars) (config.legB bars)

def ratioOf (row : Domain.Bar × Domain.Bar) : ℚ :=
  row.1.close / row.2.close

def ratios (rows : List (Domain.Bar × Domain.Bar)) : List ℚ :=
  (rows.filter (fun row => row.2.close ≠ 0)).map ratioOf

def rowScore (config : Config) (sqrt : ℚ → ℚ) (earlier : List (Domain.Bar × Domain.Bar))
    (row : Domain.Bar × Domain.Bar) : Option ℚ :=
  if row.2.close = 0 then none
  else config.zScore sqrt (ratioOf row) ((ratios (earlier ++ [row])).rtake config.windowSize)

/-- The strategy on rows: its state is the rows so far and the spread. -/
def rowMachine (config : Config) (sqrt : ℚ → ℚ) :
    EventMachine (Domain.Bar × Domain.Bar)
      (List (Domain.Bar × Domain.Bar) × Option Spread) (List Intent) :=
  { start := ([], none)
    step := fun row state =>
      match config.rowScore sqrt state.1 row with
      | none => ([], (state.1 ++ [row], state.2))
      | some z =>
          let (intents, position) := config.onZScore z row.1.exchange state.2
          (intents, (state.1 ++ [row], position)) }

/-- What an intent says, up to the exchange. -/
def terms (intent : Intent) : String × Side × ℤ × String :=
  (intent.symbol, intent.side, intent.quantity, intent.reason)

def orders {ε : Type} (calls : List (ε × List Intent)) : List (String × Side × ℤ × String) :=
  calls.flatMap (fun call => call.2.map terms)

theorem orders_append {ε : Type} (earlier later : List (ε × List Intent)) :
    orders (earlier ++ later) = orders earlier ++ orders later :=
  List.flatMap_append

theorem ratios_concat (earlier : List (Domain.Bar × Domain.Bar)) (row : Domain.Bar × Domain.Bar) :
    ratios (earlier ++ [row]) =
      if row.2.close = 0 then ratios earlier else ratios earlier ++ [ratioOf row] := by
  unfold ratios
  rw [List.filter_append, List.map_append, List.filter_singleton]
  split_ifs with worthless
  · rw [decide_eq_false (not_not.mpr worthless)]
    exact List.append_nil _
  · rw [decide_eq_true worthless]
    rfl

theorem rows_after (earlier : List (Domain.Bar × Domain.Bar)) :
    ((config.rowMachine sqrt).after earlier).1 = earlier := by
  induction earlier using List.reverseRecOn with
  | nil => rfl
  | append_singleton before row ih =>
      rw [EventMachine.after_concat]
      unfold EventMachine.advance rowMachine at ih ⊢
      dsimp only
      split
      · exact congrArg (fun seen => seen ++ [row]) ih
      · exact congrArg (fun seen => seen ++ [row]) ih

theorem onZScore_exchange (z : ℚ) (exchange other : String) (position : Option Spread) :
    (config.onZScore z exchange position).1.map terms =
        (config.onZScore z other position).1.map terms ∧
      (config.onZScore z exchange position).2 = (config.onZScore z other position).2 := by
  unfold onZScore closePositionIntents
  cases position with
  | none =>
      dsimp only
      split_ifs <;> exact ⟨rfl, rfl⟩
  | some spread =>
      cases spread with
      | long =>
          dsimp only
          split_ifs <;> exact ⟨rfl, rfl⟩
      | short =>
          dsimp only
          split_ifs <;> exact ⟨rfl, rfl⟩

/-- What the state keeps of the rows so far. -/
structure Keeps (config : Config) (sqrt : ℚ → ℚ) (state : PairState)
    (earlier : List (Domain.Bar × Domain.Bar)) : Prop where
  ratioHistory : state.ratioHistory = (ratios earlier).rtake config.windowSize
  position : state.position = ((config.rowMachine sqrt).after earlier).2

section Row

variable {state : PairState} {earlier : List (Domain.Bar × Domain.Bar)}
  {row : Domain.Bar × Domain.Bar} (keeps : Keeps config sqrt state earlier)
include keeps

theorem Keeps.window (priced : row.2.close ≠ 0) :
    (if config.windowSize < (state.ratioHistory ++ [ratioOf row]).length then
        (state.ratioHistory ++ [ratioOf row]).tail
      else state.ratioHistory ++ [ratioOf row]) =
      (ratios (earlier ++ [row])).rtake config.windowSize := by
  have full : (state.ratioHistory ++ [ratioOf row]).length ≤ config.windowSize + 1 := by
    rw [keeps.ratioHistory, List.length_append, length_rtake, List.length_singleton]
    omega
  rw [tail_eq_rtake full, keeps.ratioHistory, rtake_concat, ratios_concat, if_neg priced]

theorem Keeps.onPair_eq (exchange : String) :
    config.onPair sqrt exchange row.1 row.2 state =
      match config.rowScore sqrt earlier row with
      | none =>
          ([], { state with
            ratioHistory := (ratios (earlier ++ [row])).rtake config.windowSize })
      | some z =>
          ((config.onZScore z exchange state.position).1,
            { state with
              ratioHistory := (ratios (earlier ++ [row])).rtake config.windowSize
              position := (config.onZScore z exchange state.position).2 }) := by
  unfold onPair rowScore
  by_cases worthless : row.2.close = 0
  · rw [if_pos worthless, if_pos worthless, ratios_concat, if_pos worthless, ← keeps.ratioHistory]
  · rw [if_neg worthless, if_neg worthless]
    dsimp only
    rw [← keeps.window worthless]
    rfl

theorem Keeps.onPair (exchange : String) :
    Keeps config sqrt (config.onPair sqrt exchange row.1 row.2 state).2 (earlier ++ [row]) ∧
      (config.onPair sqrt exchange row.1 row.2 state).1.map terms =
        ((config.rowMachine sqrt).step row ((config.rowMachine sqrt).after earlier)).1.map
          terms := by
  have before : (config.rowMachine sqrt).after earlier = (earlier, state.position) :=
    Prod.ext (rows_after earlier) keeps.position.symm
  have stepped : (config.rowMachine sqrt).after (earlier ++ [row]) =
      ((config.rowMachine sqrt).step row (earlier, state.position)).2 := by
    rw [EventMachine.after_concat, before]
    rfl
  rw [keeps.onPair_eq, before]
  unfold rowMachine at stepped ⊢
  dsimp only at stepped ⊢
  cases scored : config.rowScore sqrt earlier row with
  | none =>
      rw [scored] at stepped
      exact ⟨⟨rfl, (congrArg Prod.snd stepped).symm⟩, rfl⟩
  | some z =>
      rw [scored] at stepped
      obtain ⟨same, position⟩ := config.onZScore_exchange z exchange row.1.exchange state.position
      exact ⟨⟨rfl, position.trans (congrArg Prod.snd stepped).symm⟩, same⟩

end Row

/-! ### Feeds in time order -/

/-- Bars in time order, no leg with two bars of one timestamp. -/
structure Feed (config : Config) (bars : List Domain.Bar) : Prop where
  ordered : bars.Pairwise (fun earlier later => earlier.timestamp ≤ later.timestamp)
  increasingA : (config.legA bars).Pairwise
    (fun earlier later => earlier.timestamp < later.timestamp)
  increasingB : (config.legB bars).Pairwise
    (fun earlier later => earlier.timestamp < later.timestamp)

theorem Feed.of_append {earlier later : List Domain.Bar} (feed : Feed config (earlier ++ later)) :
    Feed config earlier where
  ordered := (List.pairwise_append.mp feed.ordered).1
  increasingA := by
    have both := feed.increasingA
    unfold legA at both
    rw [List.filter_append] at both
    exact (List.pairwise_append.mp both).1
  increasingB := by
    have both := feed.increasingB
    unfold legB at both
    rw [List.filter_append] at both
    exact (List.pairwise_append.mp both).1

/-- What the state keeps of the bars so far. -/
structure Follows (config : Config) (sqrt : ℚ → ℚ) (state : PairState)
    (bars : List Domain.Bar) : Prop where
  lastBarA : state.lastBarA = (config.legA bars).getLast?
  lastBarB : state.lastBarB = (config.legB bars).getLast?
  keeps : Keeps config sqrt state (config.rows bars)

section Step

variable {state : PairState} {bars : List Domain.Bar} {bar : Domain.Bar}

theorem legA_concat (config : Config) (bars : List Domain.Bar) (bar : Domain.Bar) :
    config.legA (bars ++ [bar]) =
      if bar.symbol = config.symbolA then config.legA bars ++ [bar] else config.legA bars := by
  unfold legA
  rw [List.filter_append, List.filter_singleton]
  split_ifs with own
  · rw [decide_eq_true own]
    rfl
  · rw [decide_eq_false own]
    exact List.append_nil _

theorem legB_concat (config : Config) (bars : List Domain.Bar) (bar : Domain.Bar) :
    config.legB (bars ++ [bar]) =
      if bar.symbol ≠ config.symbolA ∧ bar.symbol = config.symbolB then config.legB bars ++ [bar]
      else config.legB bars := by
  unfold legB
  rw [List.filter_append, List.filter_singleton]
  split_ifs with own
  · rw [decide_eq_true own]
    rfl
  · rw [decide_eq_false own]
    exact List.append_nil _

theorem Follows.storeBar (follows : Follows config sqrt state bars)
    (feed : Feed config (bars ++ [bar]))
    (leg : ¬(bar.symbol ≠ config.symbolA ∧ bar.symbol ≠ config.symbolB)) :
    (config.storeBar bar state).lastBarA = (config.legA (bars ++ [bar])).getLast? ∧
      (config.storeBar bar state).lastBarB = (config.legB (bars ++ [bar])).getLast? ∧
      config.rows (bars ++ [bar]) = config.rows bars ++
        (matched Domain.Bar.timestamp Domain.Bar.timestamp
          (config.storeBar bar state).lastBarA (config.storeBar bar state).lastBarB).toList := by
  have before := feed.of_append
  have notAfter : ∀ seen ∈ bars, seen.timestamp ≤ bar.timestamp := fun seen member =>
    (List.pairwise_append.mp feed.ordered).2.2 seen member bar List.mem_cons_self
  unfold Config.storeBar
  by_cases own : bar.symbol = config.symbolA
  · have toA : config.legA (bars ++ [bar]) = config.legA bars ++ [bar] := by
      rw [legA_concat, if_pos own]
    have toB : config.legB (bars ++ [bar]) = config.legB bars := by
      rw [legB_concat, if_neg (fun other => other.1 own)]
    rw [if_pos own, toA, toB, List.getLast?_concat]
    refine ⟨rfl, follows.lastBarB, ?_⟩
    rw [follows.lastBarB]
    unfold rows
    rw [toA, toB]
    exact joined_concat_left before.increasingB
      (fun other member => notAfter other (List.mem_of_mem_filter member))
  · have second : bar.symbol = config.symbolB := by
      by_contra other
      exact leg ⟨own, other⟩
    have toA : config.legA (bars ++ [bar]) = config.legA bars := by
      rw [legA_concat, if_neg own]
    have toB : config.legB (bars ++ [bar]) = config.legB bars ++ [bar] := by
      rw [legB_concat, if_pos ⟨own, second⟩]
    have increasing := feed.increasingB
    rw [toB] at increasing
    rw [if_neg own, toA, toB, List.getLast?_concat]
    refine ⟨follows.lastBarA, rfl, ?_⟩
    rw [follows.lastBarA]
    unfold rows
    rw [toA, toB]
    exact joined_concat_right before.increasingA
      (fun other member => notAfter other (List.mem_of_mem_filter member))
      (fun other member =>
        (List.pairwise_append.mp increasing).2.2 other member bar List.mem_cons_self)

theorem Follows.step (follows : Follows config sqrt state bars)
    (feed : Feed config (bars ++ [bar])) :
    Follows config sqrt (config.onBar sqrt bar state).2 (bars ++ [bar]) ∧
      orders ((config.rowMachine sqrt).calls (config.rows (bars ++ [bar]))) =
        orders ((config.rowMachine sqrt).calls (config.rows bars)) ++
          (config.onBar sqrt bar state).1.map terms := by
  by_cases foreign : bar.symbol ≠ config.symbolA ∧ bar.symbol ≠ config.symbolB
  · have toA : config.legA (bars ++ [bar]) = config.legA bars := by
      rw [legA_concat, if_neg foreign.1]
    have toB : config.legB (bars ++ [bar]) = config.legB bars := by
      rw [legB_concat, if_neg (fun other => foreign.2 other.2)]
    have sameRows : config.rows (bars ++ [bar]) = config.rows bars := by
      unfold rows
      rw [toA, toB]
    rw [onBar_of_foreign foreign, sameRows]
    exact ⟨⟨toA ▸ follows.lastBarA, toB ▸ follows.lastBarB, sameRows ▸ follows.keeps⟩,
      (List.append_nil _).symm⟩
  · obtain ⟨lastA, lastB, grown⟩ := follows.storeBar feed foreign
    have keeps : Keeps config sqrt (config.storeBar bar state) (config.rows bars) := by
      unfold Config.storeBar
      split_ifs
      · exact ⟨follows.keeps.ratioHistory, follows.keeps.position⟩
      · exact ⟨follows.keeps.ratioHistory, follows.keeps.position⟩
    rw [onBar_of_leg foreign]
    cases met : matched Domain.Bar.timestamp Domain.Bar.timestamp
        (config.storeBar bar state).lastBarA (config.storeBar bar state).lastBarB with
    | none =>
        rw [met, Option.toList_none, List.append_nil] at grown
        rw [grown]
        exact ⟨⟨lastA, lastB, grown ▸ keeps⟩, (List.append_nil _).symm⟩
    | some row =>
        rw [met, Option.toList_some] at grown
        obtain ⟨kept, answered⟩ :=
          @Keeps.onPair config sqrt (config.storeBar bar state) _ row keeps bar.exchange
        rw [grown, EventMachine.calls_concat, orders_append]
        obtain ⟨sameA, sameB⟩ :=
          config.lastBars_onPair sqrt bar.exchange row.1 row.2 (config.storeBar bar state)
        refine ⟨⟨sameA.trans lastA, sameB.trans lastB, grown ▸ kept⟩, ?_⟩
        rw [answered]
        exact congrArg _ (List.append_nil _)

end Step

theorem follows_after {bars : List Domain.Bar} (feed : Feed config bars) :
    Follows config sqrt ((config.machine sqrt).after bars) bars ∧
      orders ((config.machine sqrt).calls bars) =
        orders ((config.rowMachine sqrt).calls (config.rows bars)) := by
  induction bars using List.reverseRecOn with
  | nil => exact ⟨⟨rfl, rfl, (List.rtake_nil _).symm, rfl⟩, rfl⟩
  | append_singleton earlier bar ih =>
      obtain ⟨follows, same⟩ := ih feed.of_append
      obtain ⟨next, grown⟩ := follows.step feed
      refine ⟨(EventMachine.after_concat _ earlier bar).symm ▸ next, ?_⟩
      rw [EventMachine.calls_concat, orders_append, same, grown]
      exact congrArg _ (List.append_nil _)

/-- The orders are those of the rows that both legs share, whatever other bars come between
and whichever leg of a row comes first; and in every stream, even one out of order, what was
ordered in a symbol is what the spread holds of it. -/
theorem orders_of_rows (config : Config) (sqrt : ℚ → ℚ) (bars : List Domain.Bar) :
    PositionTracking.Tracks (config.machine sqrt) flow
        (fun state => config.heldQuantity state.position) bars ∧
      (Feed config bars → orders ((config.machine sqrt).calls bars) =
        orders ((config.rowMachine sqrt).calls (config.rows bars))) :=
  ⟨config.tracks sqrt bars, fun feed => (follows_after feed).2⟩

end Config

/-! ### A row in two parts -/

def shortWindow : Config :=
  { windowSize := 2
    entryZScore := 1 / 2
    stopLossZScore := 5
    one_lt_window := Nat.one_lt_two }

/-- The second leg comes first, and a foreign bar between. -/
def splitRows : List Domain.Bar :=
  [flatBar "HDFCLIFE" 0 100, flatBar "INFY" 0 1, flatBar "HDFCBANK" 0 100,
    flatBar "HDFCBANK" 1 100, flatBar "HDFCBANK" 2 90, flatBar "HDFCLIFE" 2 100]

theorem splitRows_feed : shortWindow.Feed splitRows where
  ordered := by decide
  increasingA := by decide
  increasingB := by decide

theorem splitRows_orders :
    Config.orders ((shortWindow.machine id).calls splitRows) =
      Config.orders ((shortWindow.rowMachine id).calls (shortWindow.rows splitRows)) :=
  (shortWindow.orders_of_rows id splitRows).2 splitRows_feed

end TradingEngine.BlackSwanPairs
