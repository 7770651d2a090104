/-
The final bands of the Supertrend indicator over a run.

`Track` is what the indicator of a symbol keeps from one bar to the next, in the deployed
replay and in the strategy alike.  While the bands are ordered, the close of a bullish bar is
above the lower one and that of a bearish bar below the upper one, so neither widens while
the trend stays.
-/

import TradingEngine.General.RatchetedBands
import TradingEngine.Scripts.SupertrendTrader
import Mathlib.Algebra.Order.BigOperators.Group.List
import Mathlib.Algebra.Order.Field.Basic

namespace TradingEngine.SupertrendTrader

open RatchetedBands (Band)

variable {K : Type} [LinearOrder K]

omit [LinearOrder K] in
def Bands.band (bands : Bands K) : Band K :=
  { lower := bands.lower
    upper := bands.upper }

structure Track (K : Type) where
  lastClose : Option K
  bands : Option (Bands K)
  trend : Trend

namespace Track

def Ordered (track : Track K) : Prop :=
  ∀ bands ∈ track.bands, bands.lower ≤ bands.upper

/-- No band widens while the trend stays. -/
structure Ratchets (before after : Track K) : Prop where
  lower : before.trend = .bullish → after.trend = .bullish →
    ∀ bands ∈ before.bands, ∀ next ∈ after.bands, bands.lower ≤ next.lower
  upper : before.trend = .bearish → after.trend = .bearish →
    ∀ bands ∈ before.bands, ∀ next ∈ after.bands, next.upper ≤ bands.upper

/-- The last close lies on the side of the trend. -/
structure Settled (track : Track K) : Prop where
  bullish : track.trend = .bullish →
    ∀ bands ∈ track.bands, ∀ close ∈ track.lastClose, bands.lower ≤ close
  bearish : track.trend = .bearish →
    ∀ bands ∈ track.bands, ∀ close ∈ track.lastClose, close ≤ bands.upper

def follow (basic : Bands K) (prevClose close : K) (track : Track K) : Track K :=
  let bands := Params.finalBands basic prevClose track.bands
  { lastClose := some close
    bands := some bands
    trend :=
      if bands.upper < close then .bullish
      else if close < bands.lower then .bearish
      else track.trend }

/-- The basic bands of a bar jump over a band of the previous bar. -/
def Jumps (basic : Bands K) (track : Track K) : Prop :=
  ∃ last ∈ track.lastClose, ∃ previous ∈ track.bands, basic.band.Jumps last previous.band

/-- What a bar does to the track, and whether its basic bands jump. -/
inductive Step (before : Track K) (jumps : Prop) : Track K → Prop where
  | elsewhere (calm : ¬ jumps) : Step before jumps before
  | warmup (calm : ¬ jumps) (close : K) (unseeded : before.bands = none) :
      Step before jumps { before with lastClose := some close }
  | follow (basic : Bands K) (prevClose close : K) (known : before.lastClose = some prevClose)
      (ordered : basic.lower ≤ basic.upper)
      (jumping : jumps ↔ before.Jumps basic) :
      Step before jumps (before.follow basic prevClose close)

/-- What the bands do over the first `n` bars. -/
structure Law (tracks : ℕ → Track K) (n : ℕ) : Prop where
  ordered : ∀ i ≤ n, (tracks i).Ordered
  ratchets : ∀ i < n, (tracks i).Ratchets (tracks (i + 1))

variable {before after : Track K} {jumps : Prop}

theorem ordered_of_unseeded {track : Track K} (unseeded : track.bands = none) : track.Ordered := by
  intro bands member
  rw [unseeded] at member
  cases member

theorem settled_of_unseeded {track : Track K} (unseeded : track.bands = none) :
    track.Settled where
  bullish := by
    intro _ bands member
    cases unseeded.symm.trans member
  bearish := by
    intro _ bands member
    cases unseeded.symm.trans member

theorem not_jumps_of_unseeded {track : Track K} (unseeded : track.bands = none)
    (basic : Bands K) : ¬ track.Jumps basic := by
  rintro ⟨_, _, previous, kept, _⟩
  cases unseeded.symm.trans kept

theorem follow_ordered_iff {basic : Bands K} (basicOrdered : basic.lower ≤ basic.upper)
    (ordered : before.Ordered) {prevClose : K} (known : before.lastClose = some prevClose)
    (close : K) : (before.follow basic prevClose close).Ordered ↔ ¬ before.Jumps basic := by
  obtain ⟨lastClose, bands, trend⟩ := before
  cases known
  cases bands with
  | none =>
      refine iff_of_true ?_ (not_jumps_of_unseeded rfl basic)
      intro bands member
      cases member
      exact basicOrdered
  | some previous =>
      have stays : (basic.band.tighten prevClose previous.band).Ordered ↔
          ¬ basic.band.Jumps prevClose previous.band :=
        Band.ordered_tighten_iff basicOrdered (ordered previous rfl)
      constructor
      · rintro kept ⟨_, same, _, member, jumped⟩
        cases same
        cases member
        exact stays.mp (kept _ rfl) jumped
      · intro calm bands member
        cases member
        exact stays.mpr (fun jumped => calm ⟨prevClose, rfl, previous, rfl, jumped⟩)

theorem Step.congr {other : Prop} (step : Step before jumps after) (same : jumps ↔ other) :
    Step before other after := by
  cases step with
  | elsewhere calm => exact .elsewhere (fun jumped => calm (same.mpr jumped))
  | warmup calm close unseeded =>
      exact .warmup (fun jumped => calm (same.mpr jumped)) close unseeded
  | follow basic prevClose close known ordered jumping =>
      exact .follow basic prevClose close known ordered (same.symm.trans jumping)

theorem Step.ordered_iff (step : Step before jumps after) (ordered : before.Ordered) :
    after.Ordered ↔ ¬ jumps := by
  cases step with
  | elsewhere calm => exact iff_of_true ordered calm
  | warmup calm close unseeded => exact iff_of_true (ordered_of_unseeded unseeded) calm
  | follow basic prevClose close known basicOrdered jumping =>
      rw [jumping]
      exact follow_ordered_iff basicOrdered ordered known close

theorem settled_follow {basic : Bands K} {prevClose close : K}
    (ordered : (before.follow basic prevClose close).Ordered) :
    (before.follow basic prevClose close).Settled := by
  have together := ordered _ rfl
  constructor
  · intro bullish _ kept _ last
    cases kept
    cases last
    unfold follow at bullish
    dsimp only at bullish
    split_ifs at bullish with above below
    · exact together.trans above.le
    · exact not_lt.mp below
  · intro bearish _ kept _ last
    cases kept
    cases last
    unfold follow at bearish
    dsimp only at bearish
    split_ifs at bearish with above below
    · exact below.le.trans together
    · exact not_lt.mp above

theorem Step.settled (step : Step before jumps after) (settled : before.Settled)
    (ordered : after.Ordered) : after.Settled := by
  cases step with
  | elsewhere calm => exact settled
  | warmup calm close unseeded => exact settled_of_unseeded unseeded
  | follow basic prevClose close known basicOrdered jumping => exact settled_follow ordered

theorem Step.ratchets (step : Step before jumps after) (settled : before.Settled) :
    before.Ratchets after := by
  cases step with
  | elsewhere calm =>
      constructor
      · intro _ _ bands member next same
        cases Option.mem_unique member same
        exact le_refl _
      · intro _ _ bands member next same
        cases Option.mem_unique member same
        exact le_refl _
  | warmup calm close unseeded =>
      constructor
      · intro _ _ bands member
        cases unseeded.symm.trans member
      · intro _ _ bands member
        cases unseeded.symm.trans member
  | follow basic prevClose close known basicOrdered jumping =>
      constructor
      · intro bullish _ bands member next moved
        have above := settled.bullish bullish bands member prevClose known
        unfold Track.follow at moved
        rw [Option.mem_def.mp member] at moved
        cases moved
        change bands.band.lower ≤ (basic.band.tighten prevClose bands.band).lower
        exact Band.lower_le_tighten above
      · intro bearish _ bands member next moved
        have below := settled.bearish bearish bands member prevClose known
        unfold Track.follow at moved
        rw [Option.mem_def.mp member] at moved
        cases moved
        change (basic.band.tighten prevClose bands.band).upper ≤ bands.band.upper
        exact Band.tighten_upper_le below

/-! ### Runs -/

section Runs

variable {tracks : ℕ → Track K} {jumpsAt : ℕ → Prop} {n : ℕ}

theorem settled_of_calm (start : (tracks 0).bands = none)
    (steps : ∀ i < n, Step (tracks i) (jumpsAt i) (tracks (i + 1)))
    (calm : ∀ i < n, ¬ jumpsAt i) :
    ∀ i ≤ n, (tracks i).Ordered ∧ (tracks i).Settled := by
  intro i within
  induction i with
  | zero => exact ⟨ordered_of_unseeded start, settled_of_unseeded start⟩
  | succ i ih =>
      obtain ⟨ordered, settled⟩ := ih (Nat.le_of_succ_le within)
      have kept := ((steps i within).ordered_iff ordered).mpr (calm i within)
      exact ⟨kept, (steps i within).settled settled kept⟩

theorem law_iff (start : (tracks 0).bands = none)
    (steps : ∀ i < n, Step (tracks i) (jumpsAt i) (tracks (i + 1))) :
    Law tracks n ↔ ∀ i < n, ¬ jumpsAt i := by
  constructor
  · intro law i within
    exact ((steps i within).ordered_iff (law.ordered i within.le)).mp
      (law.ordered (i + 1) within)
  · intro calm
    have kept := settled_of_calm start steps calm
    exact
      { ordered := fun i within => (kept i within).1
        ratchets := fun i within => (steps i within).ratchets (kept i within.le).2 }

theorem law_iff_forall {ε : Type} {bars : List ε} {jumpsOn : ℕ → ε → Prop}
    (start : (tracks 0).bands = none)
    (steps : ∀ i bar, bars[i]? = some bar → Step (tracks i) (jumpsOn i bar) (tracks (i + 1))) :
    Law tracks bars.length ↔ ∀ i bar, bars[i]? = some bar → ¬ jumpsOn i bar := by
  have stepAt : ∀ i < bars.length,
      Step (tracks i) (∃ bar, bars[i]? = some bar ∧ jumpsOn i bar) (tracks (i + 1)) := by
    intro i inside
    have found : bars[i]? = some bars[i] := List.getElem?_eq_getElem inside
    refine (steps i _ found).congr ⟨fun jumped => ⟨_, found, jumped⟩, ?_⟩
    rintro ⟨bar, same, jumped⟩
    cases found.symm.trans same
    exact jumped
  refine (law_iff start stepAt).trans ⟨?_, ?_⟩
  · intro calm i bar found jumped
    exact calm i (List.getElem?_eq_some_iff.mp found).1 ⟨bar, found, jumped⟩
  · rintro calm i _ ⟨bar, found, jumped⟩
    exact calm i bar found jumped

end Runs

end Track

/-! ### The average true range -/

section Ranges

variable {F : Type} [Field F] [LinearOrder F]

/-- The ranges so far are not negative. -/
structure Atr.Nonneg (atrPeriod : ℕ) (state : Atr F) : Prop where
  atr : 0 ≤ state.atr
  ranges : ∀ tr ∈ state.trBuffer, 0 ≤ tr
  seeded : state.atrSeeded = true → 1 ≤ atrPeriod

variable {atrPeriod : ℕ} {state : Atr F} {tr : F}

theorem Atr.nonneg_start :
    Atr.Nonneg atrPeriod { trBuffer := [], atr := (0 : F), atrSeeded := false } where
  atr := le_refl 0
  ranges := fun _ member => absurd member List.not_mem_nil
  seeded := fun seeded => absurd seeded Bool.false_ne_true

omit [LinearOrder F] in
theorem Atr.seeded_observe (seeded : state.atrSeeded = true) :
    (state.observe atrPeriod tr).atrSeeded = true := by
  unfold Atr.observe
  rw [if_pos seeded]
  exact seeded

variable [IsStrictOrderedRing F]

theorem Atr.nonneg_observe (nonneg : state.Nonneg atrPeriod) (range : 0 ≤ tr) :
    (state.observe atrPeriod tr).Nonneg atrPeriod := by
  have ranges : ∀ x ∈ state.trBuffer ++ [tr], 0 ≤ x :=
    List.forall_mem_append.mpr ⟨nonneg.ranges, List.forall_mem_singleton.mpr range⟩
  unfold Atr.observe
  dsimp only
  by_cases seeded : state.atrSeeded = true
  · rw [if_pos seeded]
    have period : (1 : F) ≤ atrPeriod := Nat.one_le_cast.mpr (nonneg.seeded seeded)
    have smoothed : 0 ≤ state.atr * (atrPeriod - 1) + tr :=
      add_nonneg (mul_nonneg nonneg.atr (sub_nonneg.mpr period)) range
    exact ⟨div_nonneg smoothed (Nat.cast_nonneg atrPeriod), nonneg.ranges, nonneg.seeded⟩
  · rw [if_neg seeded]
    by_cases full : (state.trBuffer ++ [tr]).length = atrPeriod
    · rw [if_pos full]
      refine ⟨div_nonneg (List.sum_nonneg ranges) (Nat.cast_nonneg atrPeriod), ranges, ?_⟩
      rw [List.length_append, List.length_singleton] at full
      exact fun _ => full ▸ Nat.le_add_left 1 _
    · rw [if_neg full]
      exact ⟨nonneg.atr, ranges, nonneg.seeded⟩

theorem sub_le_add_of_nonneg {multiplier atr : F} (multiplier_nonneg : 0 ≤ multiplier)
    (atr_nonneg : 0 ≤ atr) (hl2 : F) : hl2 - multiplier * atr ≤ hl2 + multiplier * atr := by
  have width := mul_nonneg multiplier_nonneg atr_nonneg
  exact (sub_le_self hl2 width).trans (le_add_of_nonneg_right width)

end Ranges

/-! ### The deployed replay -/

section Replay

variable {F : Type} [Field F] [LinearOrder F]

namespace Params

variable (params : Params F) (df : Frame F)

/-- The average true range with bar `i`. -/
def atrAt (i : ℕ) (bar : Bar F) (state : Indicators F) : Atr F :=
  state.atr.observe params.atrPeriod (trueRange bar (prevClose df i))

/-- What the replay keeps before bar `i`. -/
def track (i : ℕ) (state : Indicators F) : Track F :=
  { lastClose := prevClose df i
    bands := state.bands
    trend := state.trend }

/-- The basic bands of bar `i` jump over a band of the previous bar. -/
def Jumps (i : ℕ) (bar : Bar F) (state : Indicators F) : Prop :=
  (track df i state).Jumps (params.basicBands bar (params.atrAt df i bar state).atr)

variable {params df} {i : ℕ} {bar : Bar F} {state : Indicators F}

theorem prevClose_succ (found : df.bars[i]? = some bar) : prevClose df (i + 1) = some bar.close :=
  congrArg (Option.map Bar.close) found

theorem observe_of_ready {last : F} (seeded : (params.atrAt df i bar state).atrSeeded = true)
    (known : prevClose df i = some last) (found : df.bars[i]? = some bar) :
    track df (i + 1) (params.observe df i bar state) =
      (track df i state).follow (params.basicBands bar (params.atrAt df i bar state).atr) last
        bar.close := by
  unfold track
  rw [prevClose_succ found]
  unfold atrAt at seeded ⊢
  unfold observe
  dsimp only
  rw [known] at seeded ⊢
  rw [seeded]
  rfl

theorem observe_of_skipped
    (skipped : (params.atrAt df i bar state).atrSeeded = false ∨ prevClose df i = none)
    (found : df.bars[i]? = some bar) :
    track df (i + 1) (params.observe df i bar state) =
      { track df i state with lastClose := some bar.close } := by
  unfold track
  rw [prevClose_succ found]
  unfold atrAt at skipped
  unfold observe
  dsimp only
  rcases skipped with unseeded | first
  · rw [unseeded]
  · rw [first]
    cases (state.atr.observe params.atrPeriod (trueRange bar none)).atrSeeded <;> rfl

theorem atr_observe : (params.observe df i bar state).atr = params.atrAt df i bar state := by
  unfold observe atrAt
  dsimp only
  split <;> rfl

/-- The ranges are not negative, and bands are kept once the average is seeded. -/
structure Coherent (params : Params F) (df : Frame F) (i : ℕ) (state : Indicators F) :
    Prop where
  nonneg : state.atr.Nonneg params.atrPeriod
  seeded : state.bands ≠ none → state.atr.atrSeeded = true
  follows : state.bands ≠ none → prevClose df i ≠ none

theorem Coherent.unseeded (coherent : Coherent params df i state)
    (skipped : (params.atrAt df i bar state).atrSeeded = false ∨ prevClose df i = none) :
    state.bands = none := by
  by_contra kept
  rcases skipped with unseeded | first
  · exact absurd ((Atr.seeded_observe (coherent.seeded kept)).symm.trans unseeded)
      Bool.noConfusion
  · exact coherent.follows kept first

variable [IsStrictOrderedRing F]

theorem trueRange_nonneg (ohlc : bar.low ≤ bar.high) (prevClose : Option F) :
    0 ≤ trueRange bar prevClose := by
  cases prevClose with
  | none => exact sub_nonneg.mpr ohlc
  | some previous => exact le_max_of_le_left (le_max_of_le_left (sub_nonneg.mpr ohlc))

theorem Coherent.nonneg_atrAt (coherent : Coherent params df i state)
    (ohlc : bar.low ≤ bar.high) : (params.atrAt df i bar state).Nonneg params.atrPeriod :=
  Atr.nonneg_observe coherent.nonneg (trueRange_nonneg ohlc _)

theorem Coherent.observe (coherent : Coherent params df i state) (ohlc : bar.low ≤ bar.high)
    (found : df.bars[i]? = some bar) :
    Coherent params df (i + 1) (params.observe df i bar state) where
  nonneg := by
    rw [atr_observe]
    exact coherent.nonneg_atrAt ohlc
  seeded := by
    rw [atr_observe]
    intro kept
    by_contra unseeded
    have skipped : (params.atrAt df i bar state).atrSeeded = false ∨ prevClose df i = none :=
      Or.inl (Bool.eq_false_of_not_eq_true unseeded)
    have same := congrArg Track.bands (observe_of_skipped skipped found)
    exact kept (same.trans (coherent.unseeded skipped))
  follows := by
    intro _
    rw [prevClose_succ found]
    exact Option.some_ne_none bar.close

theorem Coherent.step (coherent : Coherent params df i state)
    (multiplier_nonneg : 0 ≤ params.multiplier) (ohlc : bar.low ≤ bar.high)
    (found : df.bars[i]? = some bar) :
    Track.Step (track df i state) (params.Jumps df i bar state)
      (track df (i + 1) (params.observe df i bar state)) := by
  by_cases skipped : (params.atrAt df i bar state).atrSeeded = false ∨ prevClose df i = none
  · rw [observe_of_skipped skipped found]
    have unseeded := coherent.unseeded skipped
    exact .warmup (Track.not_jumps_of_unseeded unseeded _) bar.close unseeded
  · rw [not_or] at skipped
    obtain ⟨last, known⟩ := Option.ne_none_iff_exists'.mp skipped.2
    rw [observe_of_ready (Bool.eq_true_of_not_eq_false skipped.1) known found]
    refine .follow _ last bar.close known ?_ Iff.rfl
    exact sub_le_add_of_nonneg multiplier_nonneg (coherent.nonneg_atrAt ohlc).atr _

section Runs

variable [FloorRing F]

omit [IsStrictOrderedRing F] in
theorem indicators_succ (found : df.bars[i]? = some bar) :
    (params.rules.stateAfter df (i + 1)).indicators =
      params.observe df i bar (params.rules.stateAfter df i).indicators := by
  rw [ReplayRules.stateAfter_succ, ReplayRules.stepAt_of_getElem? found]
  rfl

theorem coherent_stateAfter (ohlc : ∀ bar ∈ df.bars, bar.low ≤ bar.high) (i : ℕ)
    (within : i ≤ df.length) :
    Coherent params df i (params.rules.stateAfter df i).indicators := by
  induction i with
  | zero =>
      exact
        { nonneg := Atr.nonneg_start
          seeded := fun kept => absurd rfl kept
          follows := fun kept => absurd rfl kept }
  | succ i ih =>
      have found : df.bars[i]? = some df.bars[i] := List.getElem?_eq_getElem within
      rw [indicators_succ found]
      exact (ih (Nat.le_of_succ_le within)).observe
        (ohlc _ (List.mem_of_getElem? found)) found

theorem replay_law_iff (params : Params F) (multiplier_nonneg : 0 ≤ params.multiplier)
    (df : Frame F) (ohlc : ∀ bar ∈ df.bars, bar.low ≤ bar.high) :
    Track.Law (fun i => track df i (params.rules.stateAfter df i).indicators) df.length ↔
      ∀ i bar, df.bars[i]? = some bar →
        ¬ params.Jumps df i bar (params.rules.stateAfter df i).indicators := by
  refine Track.law_iff_forall rfl (fun i bar found => ?_)
  have inside : i < df.length := (List.getElem?_eq_some_iff.mp found).1
  rw [indicators_succ found]
  exact (coherent_stateAfter ohlc i inside.le).step multiplier_nonneg
    (ohlc bar (List.mem_of_getElem? found)) found

end Runs

end Params

end Replay

end TradingEngine.SupertrendTrader
