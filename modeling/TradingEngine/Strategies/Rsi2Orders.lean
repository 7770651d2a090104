/-
The pending orders of `RSI2MeanReversionStrategy`.

A bar first executes what the previous one left pending, so a signal finds both flags clear.
A sale is pending only while the position is long, and the executed orders alternate.
-/

import TradingEngine.General.RoundTrips
import TradingEngine.Strategies.Rsi2MeanReversion

namespace TradingEngine.Rsi2MeanReversion

open Domain Swing
open Intraday (Intent)
open Signals (Side)

def isBuy (intent : Intent) : Bool :=
  intent.side = .buy

/-- A sale of the quantity that was bought. -/
def sells (entry exit : Intent) : Bool :=
  exit.side = .sell && exit.quantity = entry.quantity

def ordered : Option Signal → List (Side × String)
  | none => []
  | some .buy => [(.buy, "rsi2_entry")]
  | some (.sell reason) => [(.sell, reason)]

/-- Which flags may be set. -/
structure SymbolState.Coherent (state : SymbolState) : Prop where
  sellsLong : state.pendingSell ≠ none → state.position ≠ none
  buysFlat : state.pendingBuy = true → state.position = none

/-- No order is pending. -/
structure SymbolState.Clear (state : SymbolState) : Prop where
  buy : state.pendingBuy = false
  sell : state.pendingSell = none

namespace Config

variable {config : Config} {bar : Domain.Bar} {state executed : SymbolState}
  {intents : List Intent}

/-- What becomes of the pending order: the sale of the position, a purchase, or nothing. -/
inductive Executed (config : Config) (bar : Domain.Bar) (state : SymbolState) :
    List Intent → SymbolState → Prop where
  | sell (reason : String) (held : Holding) (pending : state.pendingSell = some reason)
      (long : state.position = some held) : Executed config bar state
      [config.createIntent bar .sell held.entryQty held.entryQty_pos reason]
      { state with
        position := none
        pendingSell := none }
  | buy (noSale : state.pendingSell = none) (pending : state.pendingBuy = true) :
      Executed config bar state
      [config.createIntent bar .buy (quantityFor config.capitalPerTrade bar.close)
        (quantityFor_pos _ _) "rsi2_entry"]
      { state with
        position := some (holdingAt config.capitalPerTrade bar)
        pendingBuy := false }
  | nothing (noSale : state.pendingSell = none) (noPurchase : state.pendingBuy = false) :
      Executed config bar state [] state

theorem executed_of_ok (done : config.executePending bar state = .ok (intents, executed)) :
    Executed config bar state intents executed := by
  obtain ⟨indicators, position, pendingBuy, pendingSell⟩ := state
  cases pendingSell with
  | some reason =>
      cases position with
      | some held =>
          cases done
          exact .sell reason held rfl rfl
      | none => cases done
  | none =>
      unfold executePending at done
      dsimp only at done
      split_ifs at done with buying worthless
      · cases done
        exact .buy rfl buying
      · cases done
        exact .nothing rfl (Bool.eq_false_of_not_eq_true buying)

theorem Executed.clear (coherent : state.Coherent)
    (done : Executed config bar state intents executed) : executed.Clear := by
  cases done with
  | sell reason held pending long =>
      refine ⟨Bool.eq_false_of_not_eq_true (fun buying => ?_), rfl⟩
      exact absurd ((coherent.buysFlat buying).symm.trans long) (Option.some_ne_none held).symm
  | buy noSale pending => exact ⟨rfl, noSale⟩
  | nothing noSale noPurchase => exact ⟨noPurchase, noSale⟩

theorem signal_cases (config : Config) (bar : Domain.Bar) (state : SymbolState) :
    config.signal bar state = none ∨
      (config.signal bar state = some .buy ∧ state.position = none) ∨
      ∃ reason, config.signal bar state = some (.sell reason) ∧ state.position ≠ none := by
  unfold signal
  by_cases warmup : state.indicators.closeHistory.length < config.trendMaPeriod
  · rw [if_pos warmup]
    exact Or.inl rfl
  · rw [if_neg warmup]
    cases long : state.position with
    | none =>
        dsimp only
        split_ifs
        · exact Or.inr (Or.inl ⟨rfl, rfl⟩)
        · exact Or.inl rfl
    | some held =>
        cases exiting : config.exitReason bar state.indicators held with
        | none => exact Or.inl (congrArg (Option.map Signal.sell) exiting)
        | some reason =>
            exact Or.inr (Or.inr ⟨reason, congrArg (Option.map Signal.sell) exiting,
              Option.some_ne_none held⟩)

theorem coherent_pend (clear : state.Clear) (config : Config) (bar : Domain.Bar) :
    (state.pend (config.signal bar state)).Coherent := by
  rcases config.signal_cases bar state with quiet | ⟨buying, flat⟩ | ⟨reason, selling, long⟩
  · rw [quiet]
    exact
      { sellsLong := fun pending => absurd clear.sell pending
        buysFlat := fun pending => absurd (clear.buy.symm.trans pending) Bool.false_ne_true }
  · rw [buying]
    exact
      { sellsLong := fun pending => absurd clear.sell pending
        buysFlat := fun _ => flat }
  · rw [selling]
    exact
      { sellsLong := fun _ => long
        buysFlat := fun pending => absurd (clear.buy.symm.trans pending) Bool.false_ne_true }

/-- A call either raises and leaves the state, or executes the pending order, observes the
close and keeps its signal. -/
theorem onSymbolBar_cases (config : Config) (bar : Domain.Bar) (state : SymbolState) :
    (∃ raised, config.onSymbolBar bar state = (.error raised, state)) ∨
      ∃ intents executed, Executed config bar state intents executed ∧
        config.onSymbolBar bar state = (.ok intents,
          (config.observe bar executed).pend
            (config.signal bar (config.observe bar executed))) := by
  unfold onSymbolBar
  cases done : config.executePending bar state with
  | error raised => exact Or.inl ⟨raised, rfl⟩
  | ok pair => exact Or.inr ⟨pair.1, pair.2, executed_of_ok done, rfl⟩

theorem clear_observe (clear : state.Clear) (config : Config) (bar : Domain.Bar) :
    (config.observe bar state).Clear :=
  ⟨clear.buy, clear.sell⟩

theorem coherent_onSymbolBar (config : Config) (bar : Domain.Bar) (coherent : state.Coherent) :
    (config.onSymbolBar bar state).2.Coherent := by
  rcases config.onSymbolBar_cases bar state with ⟨_, raising⟩ | ⟨_, _, done, answered⟩
  · rw [raising]
    exact coherent
  · rw [answered]
    exact coherent_pend (clear_observe (done.clear coherent) config bar) config bar

theorem coherent_after (config : Config) (bars : List Domain.Bar) :
    (config.machine.after bars).Coherent := by
  refine config.machine.after_invariant SymbolState.Coherent ?_ ?_ bars
  · exact ⟨fun pending => absurd rfl pending, fun pending => Bool.noConfusion pending⟩
  · exact fun bar _ coherent => config.coherent_onSymbolBar bar coherent

/-! ### Alternation -/

/-- The orders so far alternate and leave what the position holds. -/
def Balances (state : SymbolState) (intents : List Intent) : Prop :=
  ∃ held, RoundTrips.heldAfter isBuy sells intents = some held ∧
    held.map (fun intent => intent.quantity) = state.position.map Holding.entryQty

theorem Executed.balances (done : Executed config bar state intents executed)
    (coherent : state.Coherent) {earlier : List Intent} (balanced : Balances state earlier) :
    Balances executed (earlier ++ intents) := by
  obtain ⟨open_, reached, same⟩ := balanced
  cases done with
  | sell reason held pending long =>
      rw [long] at same
      obtain ⟨entry, rfl, quantity⟩ := Option.map_eq_some_iff.mp same
      have closing : sells entry
          (config.createIntent bar .sell held.entryQty held.entryQty_pos reason) = true := by
        unfold sells
        rw [quantity]
        exact Bool.and_eq_true_iff.mpr ⟨rfl, decide_eq_true rfl⟩
      exact ⟨none, RoundTrips.heldAfter_close reached closing, rfl⟩
  | buy noSale pending =>
      rw [coherent.buysFlat pending] at same
      cases Option.map_eq_none_iff.mp same
      exact ⟨_, RoundTrips.heldAfter_open reached rfl, rfl⟩
  | nothing noSale noPurchase =>
      rw [List.append_nil]
      exact ⟨open_, reached, same⟩

theorem position_pend (state : SymbolState) (signal : Option Signal) :
    (state.pend signal).position = state.position := by
  cases signal with
  | none => rfl
  | some asked => cases asked <;> rfl

def emitted (calls : List (Domain.Bar × Answer)) : List Intent :=
  calls.flatMap (fun call => call.2.intents)

theorem balances_after (config : Config) (bars : List Domain.Bar) :
    Balances (config.machine.after bars) (emitted (config.machine.calls bars)) := by
  induction bars using List.reverseRecOn with
  | nil => exact ⟨none, rfl, rfl⟩
  | append_singleton earlier bar ih =>
      rw [EventMachine.after_concat, EventMachine.calls_concat, emitted, List.flatMap_append,
        List.flatMap_singleton]
      change Balances (config.onSymbolBar bar (config.machine.after earlier)).2
        (emitted _ ++ (config.onSymbolBar bar (config.machine.after earlier)).1.intents)
      rcases config.onSymbolBar_cases bar (config.machine.after earlier) with
        ⟨_, raising⟩ | ⟨intents, executed, done, answered⟩
      · rw [raising]
        exact (List.append_nil (emitted (config.machine.calls earlier))).symm ▸ ih
      · rw [answered]
        unfold Balances
        rw [position_pend]
        exact done.balances (config.coherent_after earlier) ih

/-! ### One bar later -/

def signalOf (config : Config) (bar : Domain.Bar) (state : SymbolState) : Option Signal :=
  match config.executePending bar state with
  | .error _ => none
  | .ok (_, executed) => config.signal bar (config.observe bar executed)

theorem Executed.ordered {asked : Option Signal} {before : SymbolState} (clear : before.Clear)
    (done : Executed config bar (before.pend asked) intents executed) :
    intents.map (fun intent => (intent.side, intent.reason)) = ordered asked := by
  cases asked with
  | none =>
      cases done with
      | sell reason held pending long => cases clear.sell.symm.trans pending
      | buy noSale pending => cases clear.buy.symm.trans pending
      | nothing noSale noPurchase => rfl
  | some signal =>
      cases signal with
      | buy =>
          cases done with
          | sell reason held pending long => cases clear.sell.symm.trans pending
          | buy noSale pending => rfl
          | nothing noSale noPurchase => cases noPurchase
      | sell wanted =>
          cases done with
          | sell reason held pending long =>
              cases pending
              rfl
          | buy noSale pending => cases noSale
          | nothing noSale noPurchase => cases noSale

theorem ordered_of_signal (config : Config) (coherent : state.Coherent) {fillBar : Domain.Bar}
    (returned : (config.onSymbolBar bar state).1.isOk = true)
    (filled : (config.onSymbolBar fillBar (config.onSymbolBar bar state).2).1.isOk = true) :
    (config.onSymbolBar fillBar (config.onSymbolBar bar state).2).1.intents.map
        (fun intent => (intent.side, intent.reason)) =
      ordered (config.signalOf bar state) := by
  cases done : config.executePending bar state with
  | error raised =>
      have raising : config.onSymbolBar bar state = (.error raised, state) := by
        unfold onSymbolBar
        rw [done]
      rw [raising] at returned
      cases returned
  | ok pair =>
      have signalled : config.signalOf bar state =
          config.signal bar (config.observe bar pair.2) := by
        unfold signalOf
        rw [done]
      have answered : (config.onSymbolBar bar state).2 =
          (config.observe bar pair.2).pend (config.signal bar (config.observe bar pair.2)) := by
        unfold onSymbolBar
        rw [done]
      have clear := clear_observe ((executed_of_ok done).clear coherent) config bar
      rw [signalled, answered]
      rw [answered] at filled
      rcases config.onSymbolBar_cases fillBar _ with ⟨_, raising⟩ | ⟨_, _, executed, filling⟩
      · rw [raising] at filled
        cases filled
      · rw [filling]
        exact executed.ordered clear

/-- Each order of one symbol is the order of the signal that the previous bar gave. -/
structure OneBarLater (config : Config) (record : List (Domain.Bar × Answer)) : Prop where
  first : ∀ call rest, record = call :: rest → call.2.intents = []
  delayed : ∀ earlier signalCall fillCall, earlier ++ [signalCall, fillCall] <+: record →
    fillCall.2.intents.map (fun intent => (intent.side, intent.reason)) =
      ordered (config.signalOf signalCall.1 (config.machine.after (earlier.map Prod.fst)))

theorem oneBarLater_calls (config : Config) {bars : List Domain.Bar}
    (returned : ∀ call ∈ config.machine.calls bars, call.2.isOk = true) :
    config.OneBarLater (config.machine.calls bars) where
  first := by
    intro call rest same
    have isPrefix : [call] <+: config.machine.calls bars := ⟨rest, same.symm⟩
    have alone := (config.machine.calls_of_isPrefix isPrefix).2
    have answered : (config.onSymbolBar call.1 SymbolState.start).1 = call.2 :=
      congrArg Prod.snd (List.cons.inj alone).1
    rw [← answered]
    rfl
  delayed := by
    intro earlier signalCall fillCall isPrefix
    have known := (config.machine.calls_of_isPrefix isPrefix).2
    rw [List.map_append, EventMachine.calls_append] at known
    obtain ⟨_, last⟩ := List.append_inj' known rfl
    obtain ⟨signalled, filled⟩ := List.cons.inj last
    have signalAnswer := congrArg Prod.snd signalled
    have fillAnswer := congrArg Prod.snd (List.cons.inj filled).1
    dsimp only at signalAnswer fillAnswer
    have member : ∀ call ∈ [signalCall, fillCall], call.2.isOk = true :=
      fun call among => returned call
        (isPrefix.subset (List.mem_append_right earlier among))
    rw [← fillAnswer]
    apply config.ordered_of_signal (config.coherent_after _)
    · exact signalAnswer.symm ▸ member signalCall List.mem_cons_self
    · exact fillAnswer.symm ▸
        member fillCall (List.mem_cons_of_mem signalCall List.mem_cons_self)

theorem isOk_onSymbolBar (coherent : state.Coherent) (priced : bar.close ≠ 0) :
    (config.onSymbolBar bar state).1.isOk = true := by
  unfold onSymbolBar executePending
  cases pending : state.pendingSell with
  | none =>
      dsimp only
      rw [if_neg priced]
      split_ifs <;> rfl
  | some reason =>
      obtain ⟨held, long⟩ := Option.ne_none_iff_exists'.mp
        (coherent.sellsLong (pending ▸ Option.some_ne_none reason))
      rw [long]
      rfl

theorem isOk_calls (config : Config) {bars : List Domain.Bar}
    (priced : ∀ bar ∈ bars, bar.close ≠ 0) :
    ∀ call ∈ config.machine.calls bars, call.2.isOk = true := by
  induction bars using List.reverseRecOn with
  | nil => exact nofun
  | append_singleton earlier bar ih =>
      rw [EventMachine.calls_concat]
      intro call member
      rcases List.mem_append.mp member with before | now
      · exact ih (fun other listed => priced other (List.mem_append_left _ listed)) call before
      · rw [List.mem_singleton.mp now]
        exact isOk_onSymbolBar (config.coherent_after earlier)
          (priced bar (List.mem_append_right _ List.mem_cons_self))

theorem isOk_strategy_calls (config : Config) {bars : List Domain.Bar}
    (priced : ∀ bar ∈ bars, bar.close ≠ 0) :
    ∀ call ∈ config.strategy.calls bars, call.2.isOk = true := by
  intro call member
  have callsOf := config.machine.filter_calls_keyed Domain.Bar.symbol bars call.1.symbol
  rw [← strategy] at callsOf
  have own : call ∈ (config.strategy.calls bars).filter
      (fun other => other.1.symbol = call.1.symbol) :=
    List.mem_filter.mpr ⟨member, decide_eq_true rfl⟩
  rw [callsOf] at own
  exact config.isOk_calls (fun bar listed => priced bar (List.mem_of_mem_filter listed)) call own

theorem oneBarLater_of_priced (config : Config) {bars : List Domain.Bar} (symbol : String)
    (priced : ∀ bar ∈ bars, bar.close ≠ 0) :
    config.strategy.served bars = bars ∧
      config.OneBarLater ((config.strategy.calls bars).filter
        (fun call => call.1.symbol = symbol)) := by
  refine ⟨EventMachine.served_of_isOk _ (config.isOk_strategy_calls priced), ?_⟩
  have callsOf := config.machine.filter_calls_keyed Domain.Bar.symbol bars symbol
  rw [← strategy] at callsOf
  rw [callsOf]
  exact config.oneBarLater_calls
    (config.isOk_calls (fun bar listed => priced bar (List.mem_of_mem_filter listed)))

/-- The orders of every symbol alternate over every run, and up to the first raising call
they come one bar after their signals; after every run at most one order is pending, a sale
only while the position is long. -/
theorem pending_order_machine (config : Config) (bars : List Domain.Bar) (symbol : String) :
    RoundTrips.Alternate isBuy sells
        (emitted ((config.strategy.calls bars).filter (fun call => call.1.symbol = symbol))) ∧
      config.OneBarLater ((config.strategy.calls (config.strategy.served bars)).filter
        (fun call => call.1.symbol = symbol)) ∧
      ¬ ((config.machine.stateOf (config.strategy.after bars) symbol).pendingBuy = true ∧
        (config.machine.stateOf (config.strategy.after bars) symbol).pendingSell ≠ none) ∧
      ((config.machine.stateOf (config.strategy.after bars) symbol).pendingSell ≠ none →
        (config.machine.stateOf (config.strategy.after bars) symbol).position ≠ none) := by
  have coherent := config.coherent_after (bars.filter (fun bar => bar.symbol = symbol))
  have stateOf_symbol := config.machine.stateOf_after_keyed Domain.Bar.symbol bars symbol
  have callsOf := config.machine.filter_calls_keyed Domain.Bar.symbol
  rw [← strategy] at stateOf_symbol callsOf
  rw [stateOf_symbol, callsOf, callsOf]
  refine ⟨?_, ?_, fun both => both.2 ?_, coherent.sellsLong⟩
  · obtain ⟨held, reached, _⟩ :=
      config.balances_after (bars.filter (fun bar => bar.symbol = symbol))
    exact Option.isSome_of_eq_some reached
  · apply config.oneBarLater_calls
    intro call member
    rw [← callsOf] at member
    exact EventMachine.isOk_of_mem_calls_served _ (List.mem_of_mem_filter member)
  · by_contra selling
    exact coherent.sellsLong selling (coherent.buysFlat both.1)

end Config

end TradingEngine.Rsi2MeanReversion
