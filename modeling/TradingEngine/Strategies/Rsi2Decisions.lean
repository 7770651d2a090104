/-
What `RSI2MeanReversionStrategy` decides, read off the calls of a symbol.

The strategy keeps a trimmed history, running averages, the fields of its position and two
flags.  They say no more than the calls so far: every answer is the one that the closes and the
orders before it call for, with both averages taken over all closes.
-/

import TradingEngine.General.BoundedHistory
import TradingEngine.General.DayRecords
import TradingEngine.Strategies.Rsi2Averages

namespace TradingEngine.Rsi2MeanReversion

open BoundedHistory DayRecords Domain Swing
open Intraday (Intent)

namespace Config

variable (config : Config)

/-! ### The answer to a bar -/

/-- The indicators over all closes. -/
def averaged (closes : List ℚ) : RsiState ℚ :=
  { avgGain := WilderAverage.kept config.rsiPeriod (RsiState.gains closes)
    avgLoss := WilderAverage.kept config.rsiPeriod (RsiState.losses closes)
    closeHistory := closes }

/-- The position that one call leaves. -/
def heldAfter (held : Option Holding) (call : Domain.Bar × Answer) : Option Holding :=
  match call.2.intents with
  | [] => held
  | intent :: _ =>
      if isBuy intent then some (holdingAt config.capitalPerTrade call.1) else none

/-- The position that the orders of a record have left. -/
def heldBy (record : List (Domain.Bar × Answer)) : Option Holding :=
  record.foldl config.heldAfter none

def asksOn (closes : List ℚ) (bar : Domain.Bar) : Option Holding → Option Signal
  | some held => (config.exitReason bar (config.averaged closes) held).map Signal.sell
  | none =>
      if (config.averaged closes).sma config.trendMaPeriod < bar.close ∧
          (config.averaged closes).rsi < config.rsiEntryThreshold then
        some .buy
      else none

/-- The signal that is pending after a record: the one of its last call that returned. -/
def asks (record : List (Domain.Bar × Answer)) : Option Signal :=
  match (record.filter (fun call => call.2.isOk)).getLast? with
  | none => none
  | some call =>
      if (observed record).length < config.trendMaPeriod then none
      else config.asksOn (observed record) call.1 (config.heldBy record)

theorem bought_pos (bar : Domain.Bar) : 0 < quantityFor config.capitalPerTrade bar.close :=
  quantityFor_pos _ _

/-- The answer that executes a pending signal: a purchase for the capital of a trade, a sale of all
that is held. -/
def orderFor (bar : Domain.Bar) (held : Option Holding) : Option Signal → Answer
  | none => .ok []
  | some .buy =>
      if bar.close = 0 then .error divisionByZero
      else
        .ok [config.createIntent bar .buy (quantityFor config.capitalPerTrade bar.close)
          (config.bought_pos bar) "rsi2_entry"]
  | some (.sell reason) =>
      .ok (held.toList.map fun holding =>
        config.createIntent bar .sell holding.entryQty holding.entryQty_pos reason)

/-- A bar executes the signal of the calls before it. -/
def answerTo (record : List (Domain.Bar × Answer)) (bar : Domain.Bar) : Answer :=
  config.orderFor bar (config.heldBy record) (config.asks record)

/-! ### One more call -/

variable {config} {record : List (Domain.Bar × Answer)} {bar : Domain.Bar}

theorem heldBy_concat (call : Domain.Bar × Answer) :
    config.heldBy (record ++ [call]) = config.heldAfter (config.heldBy record) call := by
  unfold heldBy
  rw [List.foldl_append]
  rfl

theorem observed_raised (raised : EngineError) :
    observed (record ++ [(bar, .error raised)]) = observed record := by
  unfold observed
  rw [List.filter_append, List.map_append]
  exact List.append_nil _

theorem observed_returned (intents : List Intent) :
    observed (record ++ [(bar, .ok intents)]) = observed record ++ [bar.close] := by
  unfold observed
  rw [List.filter_append, List.map_append]
  rfl

theorem asks_raised (raised : EngineError) :
    config.asks (record ++ [(bar, .error raised)]) = config.asks record := by
  have same : (record ++ [(bar, Except.error raised)]).filter
      (fun call : Domain.Bar × Answer => call.2.isOk) =
        record.filter (fun call => call.2.isOk) := by
    rw [List.filter_append]
    exact List.append_nil _
  unfold asks
  rw [same, observed_raised, heldBy_concat]
  rfl

theorem asks_returned (intents : List Intent) :
    config.asks (record ++ [(bar, .ok intents)]) =
      if (observed record ++ [bar.close]).length < config.trendMaPeriod then none
      else config.asksOn (observed record ++ [bar.close]) bar
        (config.heldBy (record ++ [(bar, .ok intents)])) := by
  have last : ((record ++ [(bar, Except.ok intents)]).filter
      (fun call : Domain.Bar × Answer => call.2.isOk)).getLast? = some (bar, .ok intents) := by
    rw [List.filter_append]
    exact List.getLast?_concat
  unfold asks
  rw [last, observed_returned]

theorem asksOn_sell {closes : List ℚ} {held : Option Holding} {reason : String}
    (selling : config.asksOn closes bar held = some (.sell reason)) : held ≠ none := by
  cases held with
  | none =>
      change (if _ then some Signal.buy else none) = _ at selling
      split_ifs at selling
      cases selling
  | some holding => exact Option.some_ne_none holding

theorem exists_held_of_sell {reason : String}
    (selling : config.asks record = some (.sell reason)) :
    ∃ held, config.heldBy record = some held := by
  unfold asks at selling
  split at selling
  · cases selling
  · split_ifs at selling
    exact Option.ne_none_iff_exists'.mp (asksOn_sell selling)

/-! ### What a state shows -/

/-- The fields of a state as the calls so far tell them. -/
structure Tracks (config : Config) (state : SymbolState) (record : List (Domain.Bar × Answer)) :
    Prop where
  averages : state.indicators.Averages config.rsiPeriod (config.trendMaPeriod + 1)
    (observed record)
  history : state.indicators.closeHistory = (observed record).rtake (config.trendMaPeriod + 1)
  position : state.position = config.heldBy record
  pendingBuy : state.pendingBuy = decide (config.asks record = some .buy)
  pendingSell : ∀ reason, state.pendingSell = some reason ↔
    config.asks record = some (.sell reason)

variable {state : SymbolState} {closes : List ℚ}

theorem sma_of_history {indicators : RsiState ℚ} {period kept : ℕ} (within : period ≤ kept)
    (history : indicators.closeHistory = closes.rtake kept) :
    indicators.sma period = (config.averaged closes).sma period := by
  unfold RsiState.sma
  rw [history, length_rtake]
  change ((closes.drop (closes.length - kept)).drop _).sum / _ =
    (closes.drop (closes.length - period)).sum / _
  rw [List.drop_drop]
  have index : closes.length - kept + (min kept closes.length - period) =
      closes.length - period := by
    omega
  rw [index]

theorem rsi_of_averages {indicators : RsiState ℚ} {historyBound : ℕ}
    (averages : indicators.Averages config.rsiPeriod historyBound closes) :
    indicators.rsi = (config.averaged closes).rsi := by
  unfold RsiState.rsi
  rw [averages.avgGain, averages.avgLoss]
  rfl

theorem signal_eq (bar : Domain.Bar)
    (averages : state.indicators.Averages config.rsiPeriod (config.trendMaPeriod + 1) closes)
    (history : state.indicators.closeHistory = closes.rtake (config.trendMaPeriod + 1)) :
    config.signal bar state =
      if closes.length < config.trendMaPeriod then none
      else config.asksOn closes bar state.position := by
  have warmup : state.indicators.closeHistory.length < config.trendMaPeriod ↔
      closes.length < config.trendMaPeriod := by
    rw [averages.length]
    omega
  unfold signal
  rw [if_congr warmup rfl rfl]
  by_cases short : closes.length < config.trendMaPeriod
  · rw [if_pos short, if_pos short]
  · rw [if_neg short, if_neg short]
    cases state.position with
    | none =>
        dsimp only [asksOn]
        rw [sma_of_history (Nat.le_succ _) history, rsi_of_averages averages]
    | some held =>
        dsimp only [asksOn]
        unfold exitReason
        rw [rsi_of_averages averages]

theorem pendingBuy_pend (clear : state.Clear) (signal : Option Signal) :
    (state.pend signal).pendingBuy = decide (signal = some .buy) := by
  cases signal with
  | none => exact clear.buy
  | some asked =>
      cases asked with
      | buy => rfl
      | sell reason => exact clear.buy

theorem pendingSell_pend (clear : state.Clear) (signal : Option Signal) (reason : String) :
    (state.pend signal).pendingSell = some reason ↔ signal = some (.sell reason) := by
  have unset : state.pendingSell ≠ some reason := by
    rw [clear.sell]
    exact nofun
  cases signal with
  | none => exact iff_of_false unset nofun
  | some asked =>
      cases asked with
      | buy => exact iff_of_false unset nofun
      | sell wanted =>
          change some wanted = some reason ↔ _
          rw [Option.some_inj, Option.some_inj, Signal.sell.injEq]

theorem Tracks.answer (tracks : Tracks config state record) (bar : Domain.Bar) :
    (config.onSymbolBar bar state).1 = config.answerTo record bar := by
  have quiet (unasked : ∀ reason, config.asks record ≠ some (.sell reason)) :
      state.pendingSell = none := by
    cases pending : state.pendingSell with
    | none => rfl
    | some reason => exact absurd ((tracks.pendingSell reason).mp pending) (unasked reason)
  unfold answerTo onSymbolBar executePending
  cases asked : config.asks record with
  | none =>
      have idle : state.pendingBuy = false := by
        rw [tracks.pendingBuy, asked]
        rfl
      rw [quiet (by rw [asked]; exact nofun), idle]
      rfl
  | some signal =>
      cases signal with
      | buy =>
          have buying : state.pendingBuy = true := by
            rw [tracks.pendingBuy, asked]
            rfl
          rw [quiet (by rw [asked]; exact nofun), buying]
          dsimp only [orderFor]
          rw [if_pos rfl]
          split_ifs
          · rfl
          · rfl
      | sell reason =>
          obtain ⟨held, holds⟩ := exists_held_of_sell asked
          rw [(tracks.pendingSell reason).mpr asked, tracks.position, holds]
          rfl

theorem Tracks.raised (tracks : Tracks config state record) (bar : Domain.Bar)
    (raised : EngineError) : Tracks config state (record ++ [(bar, .error raised)]) where
  averages := by
    rw [observed_raised]
    exact tracks.averages
  history := by
    rw [observed_raised]
    exact tracks.history
  position := by
    rw [heldBy_concat]
    exact tracks.position
  pendingBuy := by
    rw [asks_raised]
    exact tracks.pendingBuy
  pendingSell := by
    rw [asks_raised]
    exact tracks.pendingSell

theorem Tracks.executed {executed : SymbolState} {intents : List Intent}
    (tracks : Tracks config state record) (done : Executed config bar state intents executed) :
    executed.position = config.heldBy (record ++ [(bar, .ok intents)]) := by
  rw [heldBy_concat]
  cases done with
  | sell reason held pending long => rfl
  | buy noSale pending => rfl
  | nothing noSale noPurchase => exact tracks.position

theorem Tracks.returned {executed : SymbolState} {intents : List Intent}
    (tracks : Tracks config state record) (coherent : state.Coherent)
    (done : Executed config bar state intents executed) :
    Tracks config
      ((config.observe bar executed).pend (config.signal bar (config.observe bar executed)))
      (record ++ [(bar, .ok intents)]) := by
  have longer : config.rsiPeriod < config.trendMaPeriod + 1 :=
    Nat.lt_succ_of_lt config.rsi_lt_trend
  have clear := clear_observe (done.clear coherent) config bar
  have held : executed.position = config.heldBy (record ++ [(bar, .ok intents)]) :=
    tracks.executed done
  have averages : (config.observe bar executed).indicators.Averages config.rsiPeriod
      (config.trendMaPeriod + 1) (observed record ++ [bar.close]) := by
    have before := tracks.averages
    rw [← done.indicators] at before
    exact RsiState.averages_observe longer before bar.close
  have history : (config.observe bar executed).indicators.closeHistory =
      (observed record ++ [bar.close]).rtake (config.trendMaPeriod + 1) := by
    have before := tracks.history
    rw [← done.indicators] at before
    change (executed.indicators.observe _ _ _).closeHistory = _
    rw [RsiState.closeHistory_observe, before, tail_eq_rtake, rtake_concat]
    rw [List.length_append, length_rtake, List.length_singleton]
    omega
  have asked : config.signal bar (config.observe bar executed) =
      config.asks (record ++ [(bar, .ok intents)]) := by
    rw [signal_eq bar averages history, asks_returned, ← held]
    rfl
  exact
    { averages := by
        rw [indicators_pend, observed_returned]
        exact averages
      history := by
        rw [indicators_pend, observed_returned]
        exact history
      position := by
        rw [position_pend]
        exact held
      pendingBuy := by
        rw [pendingBuy_pend clear, asked]
      pendingSell := by
        intro reason
        rw [pendingSell_pend clear, asked] }

/-! ### Every run -/

theorem tracks_start (config : Config) : Tracks config SymbolState.start [] where
  averages := RsiState.averages_start config.one_le_rsi _
  history := (List.rtake_nil _).symm
  position := rfl
  pendingBuy := rfl
  pendingSell := fun _reason => iff_of_false nofun nofun

theorem tracks_after (config : Config) (bars : List Domain.Bar) :
    Tracks config (config.machine.after bars) (config.machine.calls bars) ∧
      Answered config.answerTo (config.machine.calls bars) := by
  induction bars using List.reverseRecOn with
  | nil => exact ⟨tracks_start config, answered_nil _⟩
  | append_singleton earlier bar ih =>
      obtain ⟨tracks, answered⟩ := ih
      have answer : (config.onSymbolBar bar (config.machine.after earlier)).1 =
          config.answerTo (config.machine.calls earlier) bar :=
        tracks.answer bar
      rw [EventMachine.after_concat, EventMachine.calls_concat]
      change Tracks config (config.onSymbolBar bar (config.machine.after earlier)).2
          (_ ++ [(bar, (config.onSymbolBar bar (config.machine.after earlier)).1)]) ∧
        Answered _ (_ ++ [(bar, (config.onSymbolBar bar (config.machine.after earlier)).1)])
      constructor
      · rcases config.onSymbolBar_cases bar (config.machine.after earlier) with
          ⟨raised, raising⟩ | ⟨intents, executed, done, returning⟩
        · rw [raising]
          exact tracks.raised bar raised
        · rw [returning]
          exact tracks.returned (config.coherent_after earlier) done
      · rw [answer]
        exact answered.concat bar

/-- Fed with the bars of any symbols in any order, the strategy answers every bar as the closes
and the answers of its symbol before it call for. -/
theorem answers_record (config : Config) (bars : List Domain.Bar) (symbol : String) :
    Answered config.answerTo
      ((config.strategy.calls bars).filter (fun call => call.1.symbol = symbol)) := by
  have alone := config.machine.filter_calls_keyed Domain.Bar.symbol bars symbol
  rw [← strategy] at alone
  rw [alone]
  exact (config.tracks_after _).2

end Config

end TradingEngine.Rsi2MeanReversion
