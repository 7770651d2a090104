/-
The final bands of `SupertrendStrategy` and of the deployed replay.

Up to its first raising call the strategy keeps the same track of its bands as the replay.
The bands cross when the price jumps: a close inside the previous bands is followed by basic
bands that lie beyond one of them, and the band that was jumped over stays.
-/

import TradingEngine.Scripts.SupertrendBands
import TradingEngine.Strategies.Supertrend

namespace TradingEngine.Supertrend

open Domain Swing
open RatchetedBands (Band)
open SupertrendTrader (Atr Bands Flip Track Trend)

/-- What the strategy keeps of a symbol between two bars. -/
def SymbolState.track (state : SymbolState) : Track ℚ :=
  { lastClose := state.closes.getLast?
    bands := state.bands
    trend := state.trend }

namespace Config

variable {config : Config} {bar : Domain.Bar} {state : SymbolState} {bands : Bands ℚ}

/-- The basic bands of a bar jump over a band of the previous bar. -/
def Jumps (config : Config) (bar : Domain.Bar) (state : SymbolState) : Prop :=
  state.track.Jumps (config.basicBands bar (config.observe bar state).atr.atr)

/-- The ranges are not negative, and bands are kept once they have been computed. -/
structure Coherent (config : Config) (state : SymbolState) : Prop where
  nonneg : state.atr.Nonneg config.atrPeriod
  ready : state.bandsReady = state.bands.isSome
  seeded : state.bands ≠ none → state.atr.atrSeeded = true
  follows : state.bands ≠ none → state.closes.getLast? ≠ none

theorem coherent_start (config : Config) : config.Coherent SymbolState.start where
  nonneg := Atr.nonneg_start
  ready := rfl
  seeded := fun kept => absurd rfl kept
  follows := fun kept => absurd rfl kept

theorem trueRange_nonneg (bar : Domain.Bar) (prevClose : Option ℚ) :
    0 ≤ trueRange bar prevClose := by
  cases prevClose with
  | none => exact sub_nonneg.mpr bar.low_le_high
  | some previous => exact le_max_of_le_left (le_max_of_le_left (sub_nonneg.mpr bar.low_le_high))

theorem Coherent.nonneg_observe (coherent : config.Coherent state) (bar : Domain.Bar) :
    (config.observe bar state).atr.Nonneg config.atrPeriod :=
  Atr.nonneg_observe coherent.nonneg (trueRange_nonneg bar _)

theorem lastClose_observe (config : Config) (bar : Domain.Bar) (state : SymbolState) :
    (config.observe bar state).closes.getLast? = some bar.close :=
  List.getLast?_concat

theorem Coherent.unseeded (coherent : config.Coherent state)
    (skipped : config.bandsOf bar state = none) : state.bands = none := by
  by_contra kept
  obtain ⟨last, known⟩ := Option.ne_none_iff_exists'.mp (coherent.follows kept)
  have seeded : (config.observe bar state).atr.atrSeeded = true :=
    Atr.seeded_observe (coherent.seeded kept)
  unfold bandsOf at skipped
  dsimp only at skipped
  rw [seeded, known] at skipped
  cases skipped

theorem Coherent.bandsOf_eq_some (coherent : config.Coherent state)
    (found : config.bandsOf bar state = some bands) :
    (config.observe bar state).atr.atrSeeded = true ∧
      ∃ last, state.closes.getLast? = some last ∧
        bands = SupertrendTrader.Params.finalBands
          (config.basicBands bar (config.observe bar state).atr.atr) last state.bands := by
  unfold bandsOf at found
  dsimp only at found
  split at found
  · rename_i last seeded known
    cases found
    refine ⟨seeded, last, known, ?_⟩
    unfold finalBands
    rw [coherent.ready]
    cases state.bands <;> rfl
  · cases found

theorem Coherent.step (coherent : config.Coherent state)
    (returned : (config.onSymbolBar bar state).1.isOk = true) :
    config.Coherent (config.onSymbolBar bar state).2 ∧
      Track.Step state.track (config.Jumps bar state) (config.onSymbolBar bar state).2.track := by
  rcases config.onSymbolBar_cases bar state with
    ⟨skipped, answered⟩ | ⟨_, raising⟩ | ⟨bands, intents, position, found, _, answered⟩
  · have unseeded := coherent.unseeded skipped
    rw [answered]
    constructor
    · exact
        { nonneg := coherent.nonneg_observe bar
          ready := coherent.ready
          seeded := fun kept => absurd unseeded kept
          follows := fun kept => absurd unseeded kept }
    · unfold SymbolState.track
      rw [lastClose_observe]
      exact .warmup (Track.not_jumps_of_unseeded unseeded _) bar.close unseeded
  · rw [raising] at returned
    cases returned
  · obtain ⟨seeded, last, known, rfl⟩ := coherent.bandsOf_eq_some found
    rw [answered]
    constructor
    · exact
        { nonneg := coherent.nonneg_observe bar
          ready := rfl
          seeded := fun _ => seeded
          follows := fun _ => (lastClose_observe config bar state).trans_ne
            (Option.some_ne_none bar.close) }
    · unfold SymbolState.track
      rw [lastClose_observe]
      refine .follow _ last bar.close known ?_ Iff.rfl
      exact SupertrendTrader.sub_le_add_of_nonneg config.multiplier_pos.le
        (coherent.nonneg_observe bar).atr _

/-! ### Runs -/

/-- The state of a symbol before bar `i` of the bars up to the first raising call. -/
def stateBefore (config : Config) (bars : List Domain.Bar) (symbol : String) (i : ℕ) :
    SymbolState :=
  config.machine.stateOf (config.strategy.after ((config.strategy.served bars).take i)) symbol

section Runs

variable {bars : List Domain.Bar} {symbol : String} {i : ℕ}

theorem stateBefore_succ (found : (config.strategy.served bars)[i]? = some bar) :
    config.stateBefore bars symbol (i + 1) =
      if symbol = bar.symbol then
        (config.onSymbolBar bar (config.stateBefore bars symbol i)).2
      else config.stateBefore bars symbol i := by
  unfold stateBefore
  rw [EventMachine.after_take_succ _ found]
  exact config.machine.stateOf_advance_keyed Domain.Bar.symbol _ bar symbol

theorem returned_stateBefore (found : (config.strategy.served bars)[i]? = some bar) :
    (config.onSymbolBar bar (config.stateBefore bars bar.symbol i)).1.isOk = true :=
  EventMachine.isOk_of_mem_calls_served _ (EventMachine.mem_calls_of_getElem? _ found)

theorem coherent_stateBefore (config : Config) (bars : List Domain.Bar) (symbol : String) (i : ℕ)
    (within : i ≤ (config.strategy.served bars).length) :
    config.Coherent (config.stateBefore bars symbol i) := by
  induction i with
  | zero => exact config.coherent_start
  | succ i ih =>
      have coherent := ih (Nat.le_of_succ_le within)
      have found := List.getElem?_eq_getElem within
      rw [stateBefore_succ found]
      split_ifs with same
      · subst same
        exact (coherent.step (returned_stateBefore found)).1
      · exact coherent

theorem strategy_law_iff (config : Config) (bars : List Domain.Bar) (symbol : String) :
    Track.Law (fun i => (config.stateBefore bars symbol i).track)
        (config.strategy.served bars).length ↔
      ∀ i bar, (config.strategy.served bars)[i]? = some bar → bar.symbol = symbol →
        ¬ config.Jumps bar (config.stateBefore bars symbol i) := by
  have step : ∀ i bar, (config.strategy.served bars)[i]? = some bar →
      Track.Step (config.stateBefore bars symbol i).track
        (bar.symbol = symbol ∧ config.Jumps bar (config.stateBefore bars symbol i))
        (config.stateBefore bars symbol (i + 1)).track := by
    intro i bar found
    have inside := (List.getElem?_eq_some_iff.mp found).1
    rw [stateBefore_succ found]
    split_ifs with same
    · subst same
      exact ((config.coherent_stateBefore bars _ i inside.le).step
        (returned_stateBefore found)).2.congr (and_iff_right rfl).symm
    · exact .elsewhere (fun own => same own.1.symm)
  refine (Track.law_iff_forall rfl step).trans ?_
  simp only [not_and]

end Runs

/-- A rise from 100 into a bar from 150 to 200, which closes at its low and stays there. -/
def jumpDays : List Domain.Bar :=
  (List.range 14).map (fun day => flatBar "RELIANCE" (86400000000 * day) 100) ++
    [{ flatBar "RELIANCE" 1209600000000 150 with
        high := 200
        low_le_high := by norm_num [flatBar] },
      flatBar "RELIANCE" 1296000000000 150]

end Config

def defaultParams : SupertrendTrader.Params ℚ :=
  { atrPeriod := 14
    multiplier := 3
    stopLossPct := 8
    maxHoldDays := 60 }

theorem defaultParams_multiplier_pos : 0 < defaultParams.multiplier :=
  three_pos

/-- The default indicator, with one rupee for each trade. -/
def oneRupee : Config :=
  { capitalPerTrade := 1
    capital_pos := Int.zero_lt_one
    multiplier_pos := defaultParams_multiplier_pos }

/-- The bands of strategy and replay stay ordered and ratchet exactly in the runs in which no
basic bands jump over a band. -/
theorem bands_ratchet_iff {K : Type} [Field K] [LinearOrder K] [IsStrictOrderedRing K]
    [FloorRing K] (config : Config) (bars : List Domain.Bar) (symbol : String)
    (params : SupertrendTrader.Params K) (multiplier_pos : 0 < params.multiplier) (df : Frame K)
    (ohlc : ∀ bar ∈ df.bars, bar.low ≤ bar.close ∧ bar.close ≤ bar.high) :
    (Track.Law (fun i => (config.stateBefore bars symbol i).track)
        (config.strategy.served bars).length ↔
      ∀ i bar, (config.strategy.served bars)[i]? = some bar → bar.symbol = symbol →
        ¬ config.Jumps bar (config.stateBefore bars symbol i)) ∧
    (Track.Law (fun i => SupertrendTrader.Params.track df i
        (params.rules.stateAfter df i).indicators) df.length ↔
      ∀ i bar, df.bars[i]? = some bar →
        ¬ params.Jumps df i bar (params.rules.stateAfter df i).indicators) :=
  ⟨config.strategy_law_iff bars symbol,
    params.replay_law_iff multiplier_pos.le df
      (fun bar member => (ohlc bar member).1.trans (ohlc bar member).2)⟩

/-- The same days for the replay. -/
def jumpFrame : Frame ℚ :=
  { bars :=
      (List.range 14).map (fun day =>
        { timestamp := { seconds := 86400 * day }
          openPrice := 100
          high := 100
          low := 100
          close := 100
          open_pos := hundred_pos
          close_pos := hundred_pos }) ++
        [{ timestamp := { seconds := 1209600 }
           openPrice := 150
           high := 200
           low := 150
           close := 150
           open_pos := by norm_num
           close_pos := by norm_num }]
    nonempty := List.append_ne_nil_of_right_ne_nil _ (List.cons_ne_nil _ []) }

theorem bands_ratchet_iff_jumpFrame :
    ¬ Track.Law (fun i => SupertrendTrader.Params.track jumpFrame i
      (defaultParams.rules.stateAfter jumpFrame i).indicators) 15 := by
  have days : jumpFrame.length = 15 := rfl
  have law := (bands_ratchet_iff oneRupee Config.jumpDays "RELIANCE" defaultParams
    defaultParams_multiplier_pos jumpFrame (by decide +kernel)).2
  rw [days] at law
  rw [law]
  intro calm
  exact calm 14 _ rfl ⟨100, by decide +kernel, by decide +kernel⟩

/-- After the jump the lower band of an up-trend falls from 1075/7 to 6375/49. -/
theorem jumpDays_widens :
    ¬ Track.Law (fun i => (oneRupee.stateBefore Config.jumpDays "RELIANCE" i).track)
      (oneRupee.strategy.served Config.jumpDays).length := by
  intro law
  have served : (oneRupee.strategy.served Config.jumpDays).length = 16 := by
    decide +kernel
  have bullish : (oneRupee.stateBefore Config.jumpDays "RELIANCE" 15).trend = .bullish ∧
      (oneRupee.stateBefore Config.jumpDays "RELIANCE" 16).trend = .bullish := by
    decide +kernel
  have crossed : (oneRupee.stateBefore Config.jumpDays "RELIANCE" 15).bands.map Bands.lower =
      some (1075 / 7) := by
    decide +kernel
  have widened : (oneRupee.stateBefore Config.jumpDays "RELIANCE" 16).bands.map Bands.lower =
      some (6375 / 49) := by
    decide +kernel
  obtain ⟨before, kept, lower⟩ := Option.map_eq_some_iff.mp crossed
  obtain ⟨after, next, fallen⟩ := Option.map_eq_some_iff.mp widened
  have inside : 15 < (oneRupee.strategy.served Config.jumpDays).length := by
    rw [served]
    decide
  have ratchet := (law.ratchets 15 inside).lower bullish.1 bullish.2 before kept after next
  rw [lower, fallen] at ratchet
  norm_num at ratchet

end TradingEngine.Supertrend
