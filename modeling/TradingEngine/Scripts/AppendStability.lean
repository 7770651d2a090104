/-
Replays of a growing frame.

Nothing that a replay decided before the last bar of a frame changes when more
bars come in.  The last bar itself is provisional: a decision there is filled at
its close until the next open is known.  When it decides nothing, the whole loop
state is the one in which every longer replay continues.
-/

import TradingEngine.Scripts.BBSqueezeTrader
import TradingEngine.Scripts.MAPullbackTrader
import TradingEngine.Scripts.SupertrendTrader

namespace TradingEngine

variable {K : Type} [Field K] [LinearOrder K] [FloorRing K]

/-! ### Agreement of books -/

/-- Books that agree except in what they call today. -/
def Book.SameTrades (left right : Book K) : Prop :=
  left.position = right.position ∧ left.realizedPnl = right.realizedPnl ∧
    left.closedTrades = right.closedTrades

theorem Book.apply_sameTrades {left right : Book K} (same : left.SameTrades right)
    (leftToday rightToday : Date) (terms : ExitTerms K) (fill : K × Timestamp)
    (signalDate : Date) (action : Action K) :
    (left.apply leftToday terms fill signalDate action).SameTrades
      (right.apply rightToday terms fill signalDate action) := by
  obtain ⟨position, realized, closed⟩ := same
  cases action with
  | close price date reason =>
      simp only [Book.apply]
      cases held : right.position with
      | none =>
          rw [Book.closeTrade_of_flat held, Book.closeTrade_of_flat (position.trans held)]
          exact ⟨position, realized, closed⟩
      | some holding =>
          rw [Book.closeTrade_of_held held, Book.closeTrade_of_held (position.trans held)]
          by_cases live : holding.isLive = true
          · rw [if_pos live, if_pos live]
            exact ⟨rfl, by simp only [realized], by simp only [closed]⟩
          · rw [if_neg live, if_neg live]
            exact ⟨rfl, realized, closed⟩
  | enter => exact ⟨rfl, realized, closed⟩

theorem Book.applyAll_sameTrades {left right : Book K} (same : left.SameTrades right)
    (leftToday rightToday : Date) (terms : ExitTerms K) (fill : K × Timestamp)
    (signalDate : Date) (actions : List (Action K)) :
    (left.applyAll leftToday terms fill signalDate actions).SameTrades
      (right.applyAll rightToday terms fill signalDate actions) := by
  induction actions generalizing left right with
  | nil => exact same
  | cons action rest ih =>
      exact ih (Book.apply_sameTrades same leftToday rightToday terms fill signalDate action)

theorem Book.applyAll_closedTrades_prefix (today : Date) (terms : ExitTerms K)
    (fill : K × Timestamp) (signalDate : Date) (book : Book K) (actions : List (Action K)) :
    book.closedTrades <+: (book.applyAll today terms fill signalDate actions).closedTrades := by
  induction actions generalizing book with
  | nil => exact List.prefix_rfl
  | cons action rest ih =>
      have later := ih (book.apply today terms fill signalDate action)
      apply List.IsPrefix.trans _ later
      cases action with
      | close price date reason => exact book.closeTrade_closedTrades_prefix today _ _ _
      | enter => exact List.prefix_rfl

namespace ReplayRules

variable {I : Type}

/-- The rules read no bar beyond the one they decide at, and no fill either. -/
structure Causal (rules : ReplayRules I K) : Prop where
  observe_append : ∀ (df : Frame K) (later : List (Bar K)) (i : ℕ) (bar : Bar K)
    (indicators : I), i < df.length →
      rules.observe (df.append later) i bar indicators = rules.observe df i bar indicators
  signals_fill : ∀ (bar : Bar K) (fill otherFill : K × Timestamp) (indicators : I)
    (position : Option (Position K)),
      (rules.actions bar fill indicators position).map Action.signal =
        (rules.actions bar otherFill indicators position).map Action.signal

def Agree (left right : LoopState I K) : Prop :=
  left.indicators = right.indicators ∧ left.book.SameTrades right.book

variable {rules : ReplayRules I K}

theorem stepAt_agree (causal : rules.Causal) (df : Frame K) (later : List (Bar K)) {i : ℕ}
    (settled : i + 1 < df.length) {left right : LoopState I K} (agree : Agree left right) :
    Agree (rules.stepAt (df.append later) i left) (rules.stepAt df i right) := by
  obtain ⟨indicators, trades⟩ := agree
  have inside : i < df.length := Nat.lt_of_succ_lt settled
  have found : df.bars[i]? = some df.bars[i] := List.getElem?_eq_getElem inside
  have foundLater : (df.append later).bars[i]? = some df.bars[i] := by
    rw [df.getElem?_append later inside, found]
  have observed : rules.observe (df.append later) i df.bars[i] left.indicators =
      rules.observe df i df.bars[i] right.indicators := by
    rw [causal.observe_append df later i _ _ inside, indicators]
  have decided : rules.decide (df.append later) i df.bars[i] left =
      rules.decide df i df.bars[i] right := by
    simp only [decide, df.fill_append later _ settled, observed, trades.1]
  rw [stepAt_of_getElem? foundLater, stepAt_of_getElem? found, decided,
    df.fill_append later _ settled]
  exact ⟨observed, Book.applyAll_sameTrades trades _ _ _ _ _ _⟩

theorem stateAfter_agree (causal : rules.Causal) (df : Frame K) (later : List (Bar K))
    {count : ℕ} (settled : count < df.length) :
    Agree (rules.stateAfter (df.append later) count) (rules.stateAfter df count) := by
  unfold stateAfter
  apply RangeLoop.loop_related _ _ _ _ Agree count
  · exact ⟨rfl, rfl, rfl, rfl⟩
  · intro i left right before agree
    exact stepAt_agree causal df later (Nat.lt_of_le_of_lt before settled) agree

/-- At the last bar the fill may still change, but not what is decided there. -/
theorem signalsAt_append (causal : rules.Causal) (df : Frame K) (later : List (Bar K))
    {i : ℕ} (inside : i < df.length) :
    rules.signalsAt (df.append later) i = rules.signalsAt df i := by
  have found : df.bars[i]? = some df.bars[i] := List.getElem?_eq_getElem inside
  have agree := stateAfter_agree causal df later inside
  rw [signalsAt_of_getElem? found,
    signalsAt_of_getElem? ((df.getElem?_append later inside).trans found)]
  unfold decide
  rw [causal.observe_append df later i _ _ inside, agree.1, agree.2.1]
  exact causal.signals_fill _ _ _ _ _

theorem stateAfter_agree_of_quiet (causal : rules.Causal) (df : Frame K)
    (later : List (Bar K)) (quiet : rules.signalsAt df (df.length - 1) = []) :
    Agree (rules.stateAfter (df.append later) df.length)
      (rules.stateAfter df df.length) := by
  obtain ⟨last, lengthEq⟩ : ∃ last, df.length = last + 1 :=
    Nat.exists_eq_succ_of_ne_zero (fun empty => df.nonempty (List.length_eq_zero_iff.mp empty))
  have inside : last < df.length := by omega
  rw [lengthEq, Nat.add_sub_cancel] at quiet
  rw [lengthEq, stateAfter_succ, stateAfter_succ]
  have agree := stateAfter_agree causal df later inside
  obtain ⟨indicators, trades⟩ := agree
  have found : df.bars[last]? = some df.bars[last] := List.getElem?_eq_getElem inside
  have foundLater : (df.append later).bars[last]? = some df.bars[last] := by
    rw [df.getElem?_append later inside, found]
  have observed : rules.observe (df.append later) last df.bars[last]
      (rules.stateAfter (df.append later) last).indicators =
        rules.observe df last df.bars[last] (rules.stateAfter df last).indicators := by
    rw [causal.observe_append df later last _ _ inside, indicators]
  have quietLater := (signalsAt_append causal df later inside).trans quiet
  rw [signalsAt_of_getElem? found, List.map_eq_nil_iff] at quiet
  rw [signalsAt_of_getElem? foundLater, List.map_eq_nil_iff] at quietLater
  rw [stepAt_of_getElem? foundLater, stepAt_of_getElem? found, quiet, quietLater]
  exact ⟨observed, trades⟩

/-! ### Trades by the bar that decided them -/

/-- The closed trades that the pass over bar `i` appends. -/
def tradesDecidedAt (rules : ReplayRules I K) (df : Frame K) (i : ℕ) : List (Trade K) :=
  (rules.stateAfter df (i + 1)).book.closedTrades.drop
    (rules.stateAfter df i).book.closedTrades.length

/-- The closed trades whose exit was decided before the last bar. -/
def settledTrades (rules : ReplayRules I K) (df : Frame K) : List (Trade K) :=
  (List.range (df.length - 1)).flatMap (rules.tradesDecidedAt df)

theorem closedTrades_succ (rules : ReplayRules I K) (df : Frame K) (count : ℕ) :
    (rules.stateAfter df (count + 1)).book.closedTrades =
      (rules.stateAfter df count).book.closedTrades ++ rules.tradesDecidedAt df count := by
  have grows : (rules.stateAfter df count).book.closedTrades <+:
      (rules.stateAfter df (count + 1)).book.closedTrades := by
    rw [stateAfter_succ]
    unfold stepAt
    split
    · exact List.prefix_rfl
    · exact Book.applyAll_closedTrades_prefix _ _ _ _ _ _
  exact (List.prefix_append_drop grows)

theorem closedTrades_eq_flatMap (rules : ReplayRules I K) (df : Frame K) (count : ℕ) :
    (rules.stateAfter df count).book.closedTrades =
      (List.range count).flatMap (rules.tradesDecidedAt df) := by
  induction count with
  | zero => rfl
  | succ count ih =>
      rw [closedTrades_succ, ih, List.range_succ, List.flatMap_append]
      simp

theorem tradesDecidedAt_append (causal : rules.Causal) (df : Frame K)
    (later : List (Bar K)) {i : ℕ} (settled : i + 1 < df.length) :
    rules.tradesDecidedAt (df.append later) i = rules.tradesDecidedAt df i := by
  have before := stateAfter_agree causal df later (Nat.lt_of_succ_lt settled)
  have after := stateAfter_agree causal df later settled
  unfold tradesDecidedAt
  rw [before.2.2.2, after.2.2.2]

/-- What a replay of `df` and every replay of an extension of it share. -/
structure AppendStable (rules : ReplayRules I K) (df : Frame K) (later : List (Bar K))
    (maxHold : ℤ) : Prop where
  reported : (rules.replay df maxHold).closedTrades =
    rules.settledTrades df ++ rules.tradesDecidedAt df (df.length - 1)
  decided : ∀ i, i + 1 < df.length →
    rules.tradesDecidedAt (df.append later) i = rules.tradesDecidedAt df i
  settled : rules.settledTrades df <+:
    (rules.replay (df.append later) maxHold).closedTrades
  quiet : rules.signalsAt df (df.length - 1) = [] →
    (rules.stateAfter (df.append later) df.length).book.position =
        (rules.stateAfter df df.length).book.position ∧
      Agree (rules.stateAfter (df.append later) df.length) (rules.stateAfter df df.length)

theorem Causal.appendStable (causal : rules.Causal) (df : Frame K) (later : List (Bar K))
    (maxHold : ℤ) : rules.AppendStable df later maxHold := by
  obtain ⟨last, lengthEq⟩ : ∃ last, df.length = last + 1 :=
    Nat.exists_eq_succ_of_ne_zero (fun empty => df.nonempty (List.length_eq_zero_iff.mp empty))
  constructor
  · change (rules.stateAfter df df.length).book.closedTrades = _
    rw [lengthEq, closedTrades_succ, closedTrades_eq_flatMap, settledTrades, lengthEq,
      Nat.add_sub_cancel]
  · exact fun i settled => tradesDecidedAt_append causal df later settled
  · change _ <+: (rules.stateAfter (df.append later) (df.append later).length).book.closedTrades
    have extends_ : (df.append later).length = last + (1 + later.length) := by
      rw [Frame.length_append, lengthEq, Nat.add_assoc]
    rw [closedTrades_eq_flatMap, extends_, List.range_add, List.flatMap_append,
      settledTrades, lengthEq, Nat.add_sub_cancel]
    have same : (List.range last).flatMap (rules.tradesDecidedAt (df.append later)) =
        (List.range last).flatMap (rules.tradesDecidedAt df) := by
      apply List.flatMap_congr
      intro i member
      have bound := List.mem_range.mp member
      exact tradesDecidedAt_append causal df later (by omega)
    rw [same]
    exact List.prefix_append _ _
  · intro quiet
    have agree := stateAfter_agree_of_quiet causal df later quiet
    exact ⟨agree.2.1, agree⟩

end ReplayRules

/-! ### The three strategies -/

omit [FloorRing K] in
theorem MAPullbackTrader.Params.rules_causal (params : MAPullbackTrader.Params K) :
    params.rules.Causal := by
  constructor
  · exact fun _df _later _i _bar _indicators _inside => rfl
  · intro bar fill otherFill indicators position
    change (params.actions bar fill indicators position).map Action.signal =
      (params.actions bar otherFill indicators position).map Action.signal
    by_cases warmup : indicators.closeHistory.length < params.trendMaPeriod
    · rw [params.actions_of_warmup warmup, params.actions_of_warmup warmup]
    · cases position with
      | none => rw [params.actions_of_flat warmup, params.actions_of_flat warmup]
      | some held =>
          rw [params.actions_of_held warmup, params.actions_of_held warmup, List.map_map,
            List.map_map]
          rfl

omit [FloorRing K] in
theorem BBSqueezeTrader.windowBefore_append (df : Frame K) (later : List (Bar K)) {stop : ℕ}
    (inside : stop ≤ df.length) (full : bbWindow ≤ stop) :
    windowBefore (df.append later) stop = windowBefore df stop := by
  have covered : bbWindow ≤ ((df.bars.map Bar.close).drop (stop - bbWindow)).length := by
    rw [List.length_drop, List.length_map]
    change bbWindow ≤ df.length - (stop - bbWindow)
    omega
  have short : stop - bbWindow ≤ (df.bars.map Bar.close).length := by
    rw [List.length_map]
    change stop - bbWindow ≤ df.length
    omega
  unfold windowBefore
  change (((df.bars ++ later).map Bar.close).drop (stop - bbWindow)).take bbWindow = _
  rw [List.map_append, List.drop_append_of_le_length short, List.take_append_of_le_length covered]

omit [FloorRing K] in
theorem BBSqueezeTrader.Params.rules_causal (sqrt : K → K)
    (params : BBSqueezeTrader.Params K) : (params.rules sqrt).Causal := by
  constructor
  · intro df later i bar indicators inside
    change params.readingAt sqrt (df.append later) i = params.readingAt sqrt df i
    unfold readingAt
    by_cases early : i < bbWindow
    · rw [if_pos early, if_pos early]
    · have full : bbWindow ≤ i := Nat.le_of_not_lt early
      rw [if_neg early, if_neg early,
        windowBefore_append df later (Nat.succ_le_of_lt inside) (Nat.le_succ_of_le full),
        windowBefore_append df later (Nat.le_of_lt inside) full]
  · intro bar fill otherFill indicators position
    change (params.actions bar fill indicators position).map Action.signal =
      (params.actions bar otherFill indicators position).map Action.signal
    cases indicators with
    | none => rfl
    | some reading =>
        cases position with
        | none => rfl
        | some held =>
            have sameExit := params.exitAt_map_snd bar fill.1 otherFill.1 reading held
            rw [params.actions_of_held, params.actions_of_held]
            cases exit : params.exitAt bar fill.1 reading held <;>
              cases otherExit : params.exitAt bar otherFill.1 reading held <;>
              simp_all [Action.signal]

omit [FloorRing K] in
theorem SupertrendTrader.prevClose_append (df : Frame K) (later : List (Bar K)) {i : ℕ}
    (inside : i < df.length) : prevClose (df.append later) i = prevClose df i := by
  cases i with
  | zero => rfl
  | succ previous =>
      simp only [prevClose]
      rw [df.getElem?_append later (Nat.lt_of_succ_lt inside)]

omit [FloorRing K] in
theorem SupertrendTrader.Params.rules_causal (params : SupertrendTrader.Params K) :
    params.rules.Causal := by
  constructor
  · intro df later i bar indicators inside
    change params.observe (df.append later) i bar indicators =
      params.observe df i bar indicators
    unfold observe
    rw [prevClose_append df later inside]
  · intro bar fill otherFill indicators position
    change (params.actions bar fill indicators position).map Action.signal =
      (params.actions bar otherFill indicators position).map Action.signal
    cases ready : indicators.flip with
    | none => rw [params.actions_of_skipped ready, params.actions_of_skipped ready]
    | some flip =>
        cases position with
        | none => rw [params.actions_of_flat ready, params.actions_of_flat ready]
        | some held =>
            rw [params.actions_of_held ready, params.actions_of_held ready]
            cases params.exitReason bar flip held with
            | none => rfl
            | some reason => rfl

/-- No look-ahead in the replays that the master run calls: what was decided
before the last bar of a frame is final, and a quiet last bar leaves the state in
which every longer replay continues. -/
theorem replaySymbol_appendStable (sqrt : K → K) (maParams : MAPullbackTrader.Params K)
    (bbParams : BBSqueezeTrader.Params K) (stParams : SupertrendTrader.Params K)
    (df : Frame K) (later : List (Bar K)) :
    maParams.rules.AppendStable df later maParams.maxHoldDays ∧
      (bbParams.rules sqrt).AppendStable df later bbParams.maxHoldDays ∧
      stParams.rules.AppendStable df later stParams.maxHoldDays :=
  ⟨maParams.rules_causal.appendStable df later maParams.maxHoldDays,
    (bbParams.rules_causal sqrt).appendStable df later bbParams.maxHoldDays,
    stParams.rules_causal.appendStable df later stParams.maxHoldDays⟩

end TradingEngine
