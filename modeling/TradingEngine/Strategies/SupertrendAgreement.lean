/-
The deployed Supertrend replay against its reference strategy.

Both keep the same average true range, bands and trend, and buy on the same bullish flips.  A
bearish flip closes the position of both; a stop and a holding time are measured from the close
and the time of the signal bar by the strategy, and from the fill at the next bar by the replay.
-/

import TradingEngine.General.OpenSpans
import TradingEngine.General.RangeLoop
import TradingEngine.Strategies.SupertrendPositions
import TradingEngine.Strategies.SupertrendRatchet

namespace TradingEngine.Supertrend

open Domain Swing
open Intraday (Intent)
open OpenSpans (openedAt)
open Signals (Side)
open SupertrendTrader (Flip Indicators Params Trend prevClose)

def Config.params (config : Config) : Params ℚ :=
  { atrPeriod := config.atrPeriod
    multiplier := config.multiplier
    stopLossPct := config.stopLossPct
    maxHoldDays := config.maxHoldDays }

/-- A bar of a daily frame as the engines hand it over.  Neither machine reads a volume. -/
def quote (symbol exchange : String) (bar : Bar ℚ) (ordered : bar.low ≤ bar.high) : Domain.Bar :=
  { symbol := symbol
    exchange := exchange
    timestamp := 1000000 * bar.timestamp.seconds
    openPrice := bar.openPrice
    high := bar.high
    low := bar.low
    close := bar.close
    volume := 0
    interval := "day"
    low_le_high := ordered }

def reasonName : ExitReason → String
  | .stopLoss => "supertrend_stop_loss"
  | .maxDaysHeld _ => "supertrend_time_exit"
  | other => other.text

def signalName : Signal → Side × String
  | .entry => (.buy, "supertrend_bullish_flip")
  | .exit reason => (.sell, reasonName reason)

def intentName (intent : Intent) : Side × String :=
  (intent.side, intent.reason)

/-- A frame whose bars have `low ≤ high`. -/
abbrev Ordered (df : Frame ℚ) : Prop :=
  ∀ bar ∈ df.bars, bar.low ≤ bar.high

section

variable (config : Config) (symbol exchange : String) {df : Frame ℚ} (ordered : Ordered df)

def quotes : List Domain.Bar :=
  df.bars.pmap (quote symbol exchange) ordered

/-- The state of the strategy for the symbol before bar `i` of the frame. -/
def symbolStateAfter (i : ℕ) : SymbolState :=
  config.machine.stateOf (config.strategy.after ((quotes symbol exchange ordered).take i)) symbol

/-- What the strategy answers to bar `i` of the frame. -/
def answerAt (i : ℕ) : Answer :=
  match (quotes symbol exchange ordered)[i]? with
  | none => .ok []
  | some bar =>
      (config.strategy.step bar
        (config.strategy.after ((quotes symbol exchange ordered).take i))).1

/-- The signals of the replay and the intents of the strategy at bar `i` agree up to their
names. -/
def SignalsAgree (i : ℕ) : Prop :=
  (config.params.rules.signalsAt df i).map signalName =
    (answerAt config symbol exchange ordered i).intents.map intentName

/-- The bar that signalled the position which the strategy holds before bar `i`. -/
def heldSince (i : ℕ) : Option ℕ :=
  openedAt (fun j => (symbolStateAfter config symbol exchange ordered j).position.isSome) i

/-- How bar `i` moves the trend of the strategy, absent while there are no bands. -/
def flipAt (bar : Domain.Bar) (i : ℕ) : Option Flip :=
  let state := symbolStateAfter config symbol exchange ordered i
  (config.bandsOf bar state).map
    (fun bands => { prevTrend := state.trend, newTrend := newTrend bar.close bands state.trend })

/-- If the strategy holds a position before bar `i`, the bar gives it the same verdict whether
it is measured from the signal close or from the fill. -/
def FillsAgree (i : ℕ) : Prop :=
  ∀ s signalBar bar low_le_high ordered_bar,
    heldSince config symbol exchange ordered i = some s →
    df.bars[s]? = some signalBar → df.bars[i]? = some bar →
      ∀ flip ∈ flipAt config symbol exchange ordered (quote symbol exchange bar ordered_bar) i,
        (config.params.exitReason bar flip
          (config.params.rules.terms.positionAt (df.fill s signalBar))).map reasonName =
        config.exitReason (quote symbol exchange bar ordered_bar) flip
          (holdingAt config.capitalPerTrade (quote symbol exchange signalBar low_le_high))

/-! ### The states of both machines before a bar -/

/-- Same average, bands and trend, and either both are flat or both hold the position that one
signal bar opened. -/
structure Related (i : ℕ) : Prop where
  atr : (config.params.rules.stateAfter df i).indicators.atr =
    (symbolStateAfter config symbol exchange ordered i).atr
  bands : (config.params.rules.stateAfter df i).indicators.bands =
    (symbolStateAfter config symbol exchange ordered i).bands
  trend : (config.params.rules.stateAfter df i).indicators.trend =
    (symbolStateAfter config symbol exchange ordered i).trend
  ready : (symbolStateAfter config symbol exchange ordered i).bandsReady =
    (symbolStateAfter config symbol exchange ordered i).bands.isSome
  lastClose : (symbolStateAfter config symbol exchange ordered i).closes.getLast? =
    prevClose df i
  position :
    (heldSince config symbol exchange ordered i = none ∧
      (config.params.rules.stateAfter df i).book.position = none ∧
      (symbolStateAfter config symbol exchange ordered i).position = none) ∨
    ∃ s signalBar low_le_high, heldSince config symbol exchange ordered i = some s ∧
      df.bars[s]? = some signalBar ∧
      (config.params.rules.stateAfter df i).book.position =
        some (config.params.rules.terms.positionAt (df.fill s signalBar)) ∧
      (symbolStateAfter config symbol exchange ordered i).position =
        some (holdingAt config.capitalPerTrade (quote symbol exchange signalBar low_le_high))

theorem related_start : Related config symbol exchange ordered 0 :=
  { atr := rfl
    bands := rfl
    trend := rfl
    ready := rfl
    lastClose := rfl
    position := Or.inl ⟨rfl, rfl, rfl⟩ }

end

section Pass

variable {config : Config} {symbol exchange : String} {df : Frame ℚ} {ordered : Ordered df}
variable {i : ℕ} {bar : Bar ℚ}

variable (symbol exchange ordered) in
theorem quotes_getElem? (found : df.bars[i]? = some bar) :
    ∃ low_le_high, (quotes symbol exchange ordered)[i]? =
      some (quote symbol exchange bar low_le_high) := by
  refine ⟨ordered bar (List.mem_of_getElem? found), ?_⟩
  unfold quotes
  rw [List.getElem?_pmap]
  simp [found]

variable (config) in
theorem symbolStateAfter_succ {low_le_high : bar.low ≤ bar.high}
    (quoted : (quotes symbol exchange ordered)[i]? =
      some (quote symbol exchange bar low_le_high)) :
    symbolStateAfter config symbol exchange ordered (i + 1) =
      (config.onSymbolBar (quote symbol exchange bar low_le_high)
        (symbolStateAfter config symbol exchange ordered i)).2 := by
  unfold symbolStateAfter
  rw [EventMachine.after_take_succ _ quoted]
  unfold Config.strategy
  rw [EventMachine.stateOf_advance_keyed]
  exact if_pos rfl

theorem answerAt_eq {low_le_high : bar.low ≤ bar.high}
    (quoted : (quotes symbol exchange ordered)[i]? =
      some (quote symbol exchange bar low_le_high)) :
    answerAt config symbol exchange ordered i =
      (config.onSymbolBar (quote symbol exchange bar low_le_high)
        (symbolStateAfter config symbol exchange ordered i)).1 := by
  unfold answerAt
  rw [quoted]
  rfl

theorem prevClose_succ (found : df.bars[i]? = some bar) :
    prevClose df (i + 1) = some bar.close := by
  change (df.bars[i]?).map Bar.close = _
  rw [found]
  rfl

/-! ### Indicators -/

theorem finalBands_of_ready {state : SymbolState} (ready : state.bandsReady = state.bands.isSome)
    (basic : SupertrendTrader.Bands ℚ) (last : ℚ) :
    finalBands basic last state = Params.finalBands basic last state.bands := by
  unfold finalBands
  rw [ready]
  cases state.bands with
  | none => rfl
  | some previous => rfl

theorem atr_observe_of_related (related : Related config symbol exchange ordered i)
    (low_le_high : bar.low ≤ bar.high) :
    (config.params.rules.stateAfter df i).indicators.atr.observe config.params.atrPeriod
        (SupertrendTrader.trueRange bar (prevClose df i)) =
      (config.observe (quote symbol exchange bar low_le_high)
        (symbolStateAfter config symbol exchange ordered i)).atr := by
  unfold Config.observe
  rw [related.atr, related.lastClose]
  cases prevClose df i <;> rfl

theorem flipAt_eq_none_iff {quoted : Domain.Bar} :
    flipAt config symbol exchange ordered quoted i = none ↔
      config.bandsOf quoted (symbolStateAfter config symbol exchange ordered i) = none :=
  Option.map_eq_none_iff

theorem observe_of_skipped (related : Related config symbol exchange ordered i)
    {low_le_high : bar.low ≤ bar.high}
    (skipped : config.bandsOf (quote symbol exchange bar low_le_high)
      (symbolStateAfter config symbol exchange ordered i) = none) :
    config.params.rules.observe df i bar (config.params.rules.stateAfter df i).indicators =
      { (config.params.rules.stateAfter df i).indicators with
        atr := (config.observe (quote symbol exchange bar low_le_high)
          (symbolStateAfter config symbol exchange ordered i)).atr
        flip := none } := by
  unfold Config.bandsOf at skipped
  rw [related.lastClose] at skipped
  change config.params.observe df i bar _ = _
  unfold Params.observe
  dsimp only at skipped ⊢
  rw [atr_observe_of_related related low_le_high]
  split at skipped
  · cases skipped
  · rename_i unready
    split
    · rename_i last seeded known
      exact absurd known (unready last seeded)
    · rfl

theorem observe_of_bands (related : Related config symbol exchange ordered i)
    {low_le_high : bar.low ≤ bar.high} {bands : SupertrendTrader.Bands ℚ}
    (computed : config.bandsOf (quote symbol exchange bar low_le_high)
      (symbolStateAfter config symbol exchange ordered i) = some bands) :
    config.params.rules.observe df i bar (config.params.rules.stateAfter df i).indicators =
      { atr := (config.observe (quote symbol exchange bar low_le_high)
          (symbolStateAfter config symbol exchange ordered i)).atr
        bands := some bands
        trend := newTrend bar.close bands (symbolStateAfter config symbol exchange ordered i).trend
        flip := some
          { prevTrend := (symbolStateAfter config symbol exchange ordered i).trend
            newTrend := newTrend bar.close bands
              (symbolStateAfter config symbol exchange ordered i).trend } } := by
  unfold Config.bandsOf at computed
  rw [related.lastClose] at computed
  change config.params.observe df i bar _ = _
  unfold Params.observe
  dsimp only at computed ⊢
  rw [atr_observe_of_related related low_le_high, related.bands, related.trend]
  split at computed
  · rename_i last seeded known
    rw [finalBands_of_ready related.ready, Option.some_inj] at computed
    subst computed
    rw [seeded, known]
    rfl
  · cases computed

/-! ### One bar -/

variable (config) in
theorem decide_eq (df : Frame ℚ) (i : ℕ) (bar : Bar ℚ) (state : LoopState (Indicators ℚ) ℚ) :
    config.params.rules.decide df i bar state =
      config.params.actions bar (df.fill i bar)
        (config.params.rules.observe df i bar state.indicators) state.book.position :=
  rfl

variable (config) in
theorem replay_succ (found : df.bars[i]? = some bar) :
    config.params.rules.stateAfter df (i + 1) =
      { indicators := config.params.rules.observe df i bar
          (config.params.rules.stateAfter df i).indicators
        book := (config.params.rules.stateAfter df i).book.applyAll df.todayDate
          config.params.rules.terms (df.fill i bar) bar.timestamp.date
          (config.params.rules.decide df i bar (config.params.rules.stateAfter df i)) } := by
  rw [ReplayRules.stateAfter_succ, ReplayRules.stepAt_of_getElem? found]

theorem onSymbolBar_of_trade {quoted : Domain.Bar} {state : SymbolState}
    {bands : SupertrendTrader.Bands ℚ} {intents : List Intent} {position : Option Holding}
    (computed : config.bandsOf quoted state = some bands)
    (traded : config.trade quoted
      { prevTrend := state.trend, newTrend := newTrend quoted.close bands state.trend }
      state.position = .ok (intents, position)) :
    config.onSymbolBar quoted state =
      (.ok intents,
        { config.observe quoted state with
          bandsReady := true
          bands := some bands
          trend := newTrend quoted.close bands state.trend
          position := position }) := by
  unfold Config.onSymbolBar
  dsimp only
  rw [computed]
  dsimp only
  rw [traded]

variable (config) in
theorem trade_of_held (quoted : Domain.Bar) (flip : Flip) (held : Holding) :
    config.trade quoted flip (some held) =
      .ok ((config.exitReason quoted flip held).toList.map
          (config.createIntent quoted .sell held.entryQty held.entryQty_pos),
        if (config.exitReason quoted flip held).isSome then none else some held) := by
  unfold Config.trade
  dsimp only
  cases config.exitReason quoted flip held with
  | none => rfl
  | some reason => rfl

theorem trade_of_flat {quoted : Domain.Bar} (worth : quoted.close ≠ 0) (flip : Flip) :
    config.trade quoted flip none =
      if flip.isBullish then
        .ok ([config.createIntent quoted .buy (quantityFor config.capitalPerTrade quoted.close)
            (quantityFor_pos _ _) "supertrend_bullish_flip"],
          some (holdingAt config.capitalPerTrade quoted))
      else .ok ([], none) := by
  unfold Config.trade
  dsimp only
  rw [if_neg worth]

theorem fillsAgree_of_unheld (unheld : heldSince config symbol exchange ordered i = none) :
    FillsAgree config symbol exchange ordered i := by
  intro s signalBar bar _ _ held
  rw [unheld] at held
  cases held

theorem fillsAgree_of_skipped {low_le_high : bar.low ≤ bar.high} (found : df.bars[i]? = some bar)
    (skipped : config.bandsOf (quote symbol exchange bar low_le_high)
      (symbolStateAfter config symbol exchange ordered i) = none) :
    FillsAgree config symbol exchange ordered i := by
  intro s signalBar bar' _ _ _ _ found' flip moved
  obtain rfl := Option.some.inj (found.symm.trans found')
  rw [flipAt_eq_none_iff.mpr skipped] at moved
  cases moved

theorem pass_of_skipped (related : Related config symbol exchange ordered i)
    (found : df.bars[i]? = some bar) {low_le_high : bar.low ≤ bar.high}
    (quoted : (quotes symbol exchange ordered)[i]? =
      some (quote symbol exchange bar low_le_high))
    (skipped : config.bandsOf (quote symbol exchange bar low_le_high)
      (symbolStateAfter config symbol exchange ordered i) = none) :
    SignalsAgree config symbol exchange ordered i ∧
      Related config symbol exchange ordered (i + 1) := by
  have answered : config.onSymbolBar (quote symbol exchange bar low_le_high)
      (symbolStateAfter config symbol exchange ordered i) =
        (.ok [], config.observe (quote symbol exchange bar low_le_high)
          (symbolStateAfter config symbol exchange ordered i)) := by
    unfold Config.onSymbolBar
    dsimp only
    rw [skipped]
  have observed := observe_of_skipped related skipped
  have silent : config.params.rules.decide df i bar (config.params.rules.stateAfter df i) = [] := by
    rw [decide_eq, observed]
    exact config.params.actions_of_skipped rfl _ _ _
  have stepped := replay_succ config found
  rw [silent, observed] at stepped
  have next := symbolStateAfter_succ config quoted
  rw [answered] at next
  refine ⟨?_, ?_⟩
  · unfold SignalsAgree
    rw [ReplayRules.signalsAt_of_getElem? found, silent, answerAt_eq quoted, answered]
    rfl
  · have openAlike : (symbolStateAfter config symbol exchange ordered (i + 1)).position =
        (symbolStateAfter config symbol exchange ordered i).position := by
      rw [next]
      rfl
    refine
      { atr := by rw [stepped, next]
        bands := by rw [stepped, next]; exact related.bands
        trend := by rw [stepped, next]; exact related.trend
        ready := by rw [next]; exact related.ready
        lastClose := by
          rw [next, prevClose_succ found]
          exact List.getLast?_concat
        position := ?_ }
    rw [stepped, openAlike]
    rcases related.position with ⟨unheld, replayFlat, flat⟩ | ⟨s, signalBar, h, held, rest⟩
    · refine Or.inl ⟨OpenSpans.openedAt_succ_of_closed ?_, replayFlat, flat⟩
      rw [openAlike, flat]
      rfl
    · refine Or.inr ⟨s, signalBar, h, ?_, rest⟩
      have open_ : (symbolStateAfter config symbol exchange ordered i).position.isSome = true := by
        rw [rest.2.2]
        rfl
      unfold heldSince
      rw [OpenSpans.openedAt_succ_of_kept open_ (by rw [openAlike]; exact open_)]
      exact held

/-- Bars on which both machines compute the same bands leave them related if they leave the
positions so. -/
theorem related_of_bands (related : Related config symbol exchange ordered i)
    (found : df.bars[i]? = some bar) {low_le_high : bar.low ≤ bar.high}
    {bands : SupertrendTrader.Bands ℚ}
    (computed : config.bandsOf (quote symbol exchange bar low_le_high)
      (symbolStateAfter config symbol exchange ordered i) = some bands)
    {position : Option Holding}
    (next : symbolStateAfter config symbol exchange ordered (i + 1) =
      { config.observe (quote symbol exchange bar low_le_high)
          (symbolStateAfter config symbol exchange ordered i) with
        bandsReady := true
        bands := some bands
        trend := newTrend bar.close bands (symbolStateAfter config symbol exchange ordered i).trend
        position := position })
    (positions :
      (heldSince config symbol exchange ordered (i + 1) = none ∧
        (config.params.rules.stateAfter df (i + 1)).book.position = none ∧ position = none) ∨
      ∃ s signalBar low_le_high, heldSince config symbol exchange ordered (i + 1) = some s ∧
        df.bars[s]? = some signalBar ∧
        (config.params.rules.stateAfter df (i + 1)).book.position =
          some (config.params.rules.terms.positionAt (df.fill s signalBar)) ∧
        position =
          some (holdingAt config.capitalPerTrade (quote symbol exchange signalBar low_le_high))) :
    Related config symbol exchange ordered (i + 1) := by
  have stepped := replay_succ config found
  rw [observe_of_bands related computed] at stepped
  exact
    { atr := by rw [stepped, next]
      bands := by rw [stepped, next]
      trend := by rw [stepped, next]
      ready := by rw [next]; rfl
      lastClose := by
        rw [next, prevClose_succ found]
        exact List.getLast?_concat
      position := by
        rw [next]
        exact positions }

theorem pass_of_flat (related : Related config symbol exchange ordered i)
    (found : df.bars[i]? = some bar) {low_le_high : bar.low ≤ bar.high}
    (quoted : (quotes symbol exchange ordered)[i]? =
      some (quote symbol exchange bar low_le_high))
    {bands : SupertrendTrader.Bands ℚ}
    (computed : config.bandsOf (quote symbol exchange bar low_le_high)
      (symbolStateAfter config symbol exchange ordered i) = some bands)
    (replayFlat : (config.params.rules.stateAfter df i).book.position = none)
    (strategyFlat : (symbolStateAfter config symbol exchange ordered i).position = none) :
    SignalsAgree config symbol exchange ordered i ∧
      Related config symbol exchange ordered (i + 1) := by
  have worth : (quote symbol exchange bar low_le_high).close ≠ 0 := ne_of_gt bar.close_pos
  have decided := decide_eq config df i bar (config.params.rules.stateAfter df i)
  rw [replayFlat, config.params.actions_of_flat
    (congrArg Indicators.flip (observe_of_bands related computed))] at decided
  have traded := (congrArg (config.trade (quote symbol exchange bar low_le_high)
    { prevTrend := (symbolStateAfter config symbol exchange ordered i).trend
      newTrend := newTrend bar.close bands
        (symbolStateAfter config symbol exchange ordered i).trend }) strategyFlat).trans
    (trade_of_flat worth _)
  have stepped := replay_succ config found
  rw [decided] at stepped
  have next := symbolStateAfter_succ config quoted
  have closed : (symbolStateAfter config symbol exchange ordered i).position.isSome = false := by
    rw [strategyFlat]
    rfl
  split_ifs at decided traded with flips
  · rw [onSymbolBar_of_trade computed traded] at next
    refine ⟨?_, related_of_bands related found computed next
      (Or.inr ⟨i, bar, low_le_high, ?_, found, ?_, rfl⟩)⟩
    · unfold SignalsAgree
      rw [ReplayRules.signalsAt_of_getElem? found, decided, answerAt_eq quoted,
        onSymbolBar_of_trade computed traded]
      rfl
    · refine OpenSpans.openedAt_succ_of_opened closed ?_
      rw [next]
      rfl
    · rw [stepped, if_pos flips]
      rfl
  · rw [onSymbolBar_of_trade computed traded] at next
    refine ⟨?_, related_of_bands related found computed next (Or.inl ⟨?_, ?_, rfl⟩)⟩
    · unfold SignalsAgree
      rw [ReplayRules.signalsAt_of_getElem? found, decided, answerAt_eq quoted,
        onSymbolBar_of_trade computed traded]
      rfl
    · refine OpenSpans.openedAt_succ_of_closed ?_
      rw [next]
      rfl
    · rw [stepped, if_neg flips]
      exact replayFlat

private theorem sold_inj {left right : Option String} :
    left.toList.map (fun reason => (Side.sell, reason)) =
        right.toList.map (fun reason => (Side.sell, reason)) ↔ left = right := by
  cases left <;> cases right <;> simp

theorem names_of_exit (price : ℚ) (date : Timestamp) (exit : Option ExitReason) :
    ((exit.elim [] (fun reason => [Action.close price date reason])).map Action.signal).map
        signalName = (exit.map reasonName).toList.map (fun reason => (Side.sell, reason)) := by
  cases exit <;> rfl

theorem names_of_sales (quoted : Domain.Bar) (held : Holding) (exit : Option String) :
    (exit.toList.map (config.createIntent quoted .sell held.entryQty held.entryQty_pos)).map
        intentName = exit.toList.map (fun reason => (Side.sell, reason)) := by
  cases exit <;> rfl

/-- The trend that carries a position is up, so the bar cannot turn it up. -/
theorem isBullish_of_held {position : Position ℚ}
    (related : Related config symbol exchange ordered i)
    (held : (config.params.rules.stateAfter df i).book.position = some position) (trend : Trend) :
    Flip.isBullish
      { prevTrend := (symbolStateAfter config symbol exchange ordered i).trend
        newTrend := trend } = false := by
  have bullish := config.params.stateAfter_bullishWhileHeld df i
    (held ▸ Option.some_ne_none position)
  rw [related.trend] at bullish
  unfold Flip.isBullish
  rw [bullish]
  simp

theorem fillsAgree_iff_of_held {s : ℕ} {signalBar : Bar ℚ}
    (signalled_ordered : signalBar.low ≤ signalBar.high)
    (found : df.bars[i]? = some bar) {low_le_high : bar.low ≤ bar.high}
    (heldAt : heldSince config symbol exchange ordered i = some s)
    (signalled : df.bars[s]? = some signalBar) {flip : Flip}
    (moved : flipAt config symbol exchange ordered
      (quote symbol exchange bar low_le_high) i = some flip) :
    FillsAgree config symbol exchange ordered i ↔
      (config.params.exitReason bar flip
          (config.params.rules.terms.positionAt (df.fill s signalBar))).map reasonName =
        config.exitReason (quote symbol exchange bar low_le_high) flip
          (holdingAt config.capitalPerTrade
            (quote symbol exchange signalBar signalled_ordered)) := by
  constructor
  · intro fills
    exact fills s signalBar bar signalled_ordered low_le_high heldAt signalled found flip moved
  · intro verdict s' signalBar' bar' _ _ heldAt' signalled' found' flip' moved'
    obtain rfl := Option.some.inj (heldAt.symm.trans heldAt')
    obtain rfl := Option.some.inj (signalled.symm.trans signalled')
    obtain rfl := Option.some.inj (found.symm.trans found')
    obtain rfl := Option.some.inj (moved.symm.trans moved')
    exact verdict

/-- Two machines that hold the same position give the same signal exactly when both
measurements of it come to the same verdict, and then they stay together. -/
theorem pass_of_held (related : Related config symbol exchange ordered i)
    (found : df.bars[i]? = some bar) {low_le_high : bar.low ≤ bar.high}
    (quoted : (quotes symbol exchange ordered)[i]? =
      some (quote symbol exchange bar low_le_high))
    {bands : SupertrendTrader.Bands ℚ}
    (computed : config.bandsOf (quote symbol exchange bar low_le_high)
      (symbolStateAfter config symbol exchange ordered i) = some bands)
    {s : ℕ} {signalBar : Bar ℚ} {signalled_ordered : signalBar.low ≤ signalBar.high}
    (heldAt : heldSince config symbol exchange ordered i = some s)
    (signalled : df.bars[s]? = some signalBar)
    (replayHeld : (config.params.rules.stateAfter df i).book.position =
      some (config.params.rules.terms.positionAt (df.fill s signalBar)))
    (strategyHeld : (symbolStateAfter config symbol exchange ordered i).position =
      some (holdingAt config.capitalPerTrade
        (quote symbol exchange signalBar signalled_ordered))) :
    (SignalsAgree config symbol exchange ordered i ↔
        FillsAgree config symbol exchange ordered i) ∧
      (FillsAgree config symbol exchange ordered i →
        Related config symbol exchange ordered (i + 1)) := by
  have moved : flipAt config symbol exchange ordered (quote symbol exchange bar low_le_high) i =
      some
        { prevTrend := (symbolStateAfter config symbol exchange ordered i).trend
          newTrend := newTrend bar.close bands
            (symbolStateAfter config symbol exchange ordered i).trend } :=
    Option.map_eq_some_iff.mpr ⟨bands, computed, rfl⟩
  have oneBar := fillsAgree_iff_of_held signalled_ordered found heldAt signalled moved
  have noEntry := isBullish_of_held related replayHeld
    (newTrend bar.close bands (symbolStateAfter config symbol exchange ordered i).trend)
  have decided := decide_eq config df i bar (config.params.rules.stateAfter df i)
  rw [replayHeld, config.params.actions_of_held
    (congrArg Indicators.flip (observe_of_bands related computed)), noEntry] at decided
  simp only [Bool.false_eq_true, if_false] at decided
  have traded := (congrArg (config.trade (quote symbol exchange bar low_le_high)
    { prevTrend := (symbolStateAfter config symbol exchange ordered i).trend
      newTrend := newTrend bar.close bands
        (symbolStateAfter config symbol exchange ordered i).trend }) strategyHeld).trans
    (trade_of_held config _ _ _)
  have stepped := replay_succ config found
  rw [decided] at stepped
  have next := symbolStateAfter_succ config quoted
  rw [onSymbolBar_of_trade computed traded] at next
  refine ⟨?_, ?_⟩
  · rw [oneBar, SignalsAgree, ReplayRules.signalsAt_of_getElem? found, decided, names_of_exit,
      answerAt_eq quoted, onSymbolBar_of_trade computed traded, Answer.intents, names_of_sales]
    exact sold_inj
  · intro fills
    have verdict := oneBar.mp fills
    cases exit : config.exitReason (quote symbol exchange bar low_le_high)
        { prevTrend := (symbolStateAfter config symbol exchange ordered i).trend
          newTrend := newTrend bar.close bands
            (symbolStateAfter config symbol exchange ordered i).trend }
        (holdingAt config.capitalPerTrade (quote symbol exchange signalBar signalled_ordered)) with
    | none =>
        rw [exit] at verdict next
        have stays := Option.map_eq_none_iff.mp verdict
        rw [stays] at stepped
        refine related_of_bands related found computed next
          (Or.inr ⟨s, signalBar, signalled_ordered, ?_, signalled, ?_, rfl⟩)
        · have open_ : (symbolStateAfter config symbol exchange ordered i).position.isSome =
              true := by
            rw [strategyHeld]
            rfl
          unfold heldSince
          rw [OpenSpans.openedAt_succ_of_kept open_ (by rw [next]; rfl)]
          exact heldAt
        · rw [stepped]
          exact replayHeld
    | some name =>
        rw [exit] at verdict next
        obtain ⟨reason, closes, _⟩ := Option.map_eq_some_iff.mp verdict
        rw [closes] at stepped
        refine related_of_bands related found computed next (Or.inl ⟨?_, ?_, rfl⟩)
        · refine OpenSpans.openedAt_succ_of_closed ?_
          rw [next]
          rfl
        · rw [stepped]
          exact Book.closeTrade_position _ _ _ _ _

theorem pass (related : Related config symbol exchange ordered i) (inside : i < df.length) :
    (SignalsAgree config symbol exchange ordered i ↔
        FillsAgree config symbol exchange ordered i) ∧
      (FillsAgree config symbol exchange ordered i →
        Related config symbol exchange ordered (i + 1)) := by
  have found : df.bars[i]? = some df.bars[i] := List.getElem?_eq_getElem inside
  obtain ⟨low_le_high, quoted⟩ := quotes_getElem? symbol exchange ordered found
  cases computed : config.bandsOf (quote symbol exchange df.bars[i] low_le_high)
      (symbolStateAfter config symbol exchange ordered i) with
  | none =>
      obtain ⟨agree, next⟩ := pass_of_skipped related found quoted computed
      exact ⟨iff_of_true agree (fillsAgree_of_skipped found computed), fun _ => next⟩
  | some bands =>
      rcases related.position with
        ⟨unheld, replay, strategy⟩ | ⟨s, signalBar, _, heldAt, signalled, replay, strategy⟩
      · obtain ⟨agree, next⟩ := pass_of_flat related found quoted computed replay strategy
        exact ⟨iff_of_true agree (fillsAgree_of_unheld unheld), fun _ => next⟩
      · exact pass_of_held related found quoted computed heldAt signalled replay strategy

end Pass

/-- On every frame the replay gives the signals of the strategy on every bar exactly when every
held position gets the same verdict from its signal close and from its fill. -/
theorem replay_agrees_iff (config : Config) (symbol exchange : String)
    (df : Frame ℚ) (ordered : Ordered df) :
    (∀ i, i < df.length → SignalsAgree config symbol exchange ordered i) ↔
      (∀ i, i < df.length → FillsAgree config symbol exchange ordered i) :=
  RangeLoop.lockstep_iff (Related config symbol exchange ordered)
    (SignalsAgree config symbol exchange ordered) (FillsAgree config symbol exchange ordered)
    df.length (related_start config symbol exchange ordered)
    (fun _i inside related => (pass related inside).1)
    (fun _i inside related clean => (pass related inside).2 clean)

instance (config : Config) (symbol exchange : String) {df : Frame ℚ} (ordered : Ordered df)
    (i : ℕ) : Decidable (SignalsAgree config symbol exchange ordered i) :=
  inferInstanceAs (Decidable (_ = _))

/-- A bullish flip at 111 that is filled at 131: the close of 116 is below the stop of the fill
and above that of the signal close. -/
def gapUp : Frame ℚ :=
  { bars :=
      [{ timestamp := ⟨1780272000⟩, openPrice := 100, high := 100, low := 100, close := 100
         open_pos := hundred_pos, close_pos := hundred_pos },
        { timestamp := ⟨1780358400⟩, openPrice := 100, high := 100, low := 100, close := 100
          open_pos := hundred_pos, close_pos := hundred_pos },
        { timestamp := ⟨1780444800⟩, openPrice := 111, high := 111, low := 111, close := 111
          open_pos := by norm_num, close_pos := by norm_num },
        { timestamp := ⟨1780531200⟩, openPrice := 131, high := 131, low := 116, close := 116
          open_pos := by norm_num, close_pos := by norm_num }]
    nonempty := List.cons_ne_nil _ _ }

theorem gapUp_ordered : Ordered gapUp := by
  decide +kernel

def twoDayRange : Config :=
  { capitalPerTrade := 90000
    atrPeriod := 2
    multiplier := 3 / 4
    two_le_atr := Nat.one_lt_two
    multiplier_pos := by norm_num }

theorem gapUp_not_fillsAgree :
    ¬ ∀ i, i < gapUp.length →
      FillsAgree twoDayRange "RELIANCE" "NSE" gapUp_ordered i := by
  rw [← replay_agrees_iff twoDayRange "RELIANCE" "NSE" gapUp gapUp_ordered]
  intro agree
  have apart : ¬ SignalsAgree twoDayRange "RELIANCE" "NSE" gapUp_ordered 3 := by
    decide +kernel
  exact apart (agree 3 (by decide))

end TradingEngine.Supertrend
