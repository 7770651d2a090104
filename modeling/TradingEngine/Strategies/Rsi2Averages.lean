/-
The averages of `RSI2MeanReversionStrategy`.

A call that raises does so before it observes its close, so the averages of a symbol are those
of the closes whose calls returned.
-/

import TradingEngine.Strategies.Rsi2Orders

namespace TradingEngine.Rsi2MeanReversion

open Domain Swing
open Intraday (Intent)

/-- The closes of the calls that returned. -/
def observed (calls : List (Domain.Bar × Answer)) : List ℚ :=
  (calls.filter (fun call => call.2.isOk)).map (fun call => call.1.close)

theorem observed_of_returned {calls : List (Domain.Bar × Answer)}
    (returned : ∀ call ∈ calls, call.2.isOk = true) :
    observed calls = (calls.map Prod.fst).map Domain.Bar.close := by
  rw [observed, List.filter_eq_self.mpr returned, List.map_map]
  rfl

namespace Config

variable {config : Config} {bar : Domain.Bar} {state executed : SymbolState}
  {intents : List Intent}

theorem Executed.indicators (done : Executed config bar state intents executed) :
    executed.indicators = state.indicators := by
  cases done <;> rfl

theorem indicators_pend (state : SymbolState) (signal : Option Signal) :
    (state.pend signal).indicators = state.indicators := by
  cases signal with
  | none => rfl
  | some asked => cases asked <;> rfl

theorem averages_after (config : Config) (bars : List Domain.Bar) :
    (config.machine.after bars).indicators.Averages config.rsiPeriod (config.trendMaPeriod + 1)
      (observed (config.machine.calls bars)) := by
  induction bars using List.reverseRecOn with
  | nil => exact RsiState.averages_start config.one_le_rsi _
  | append_singleton earlier bar ih =>
      rw [EventMachine.after_concat, EventMachine.calls_concat, observed, List.filter_append,
        List.map_append]
      change RsiState.Averages _ _ (observed (config.machine.calls earlier) ++ observed [(bar,
          (config.onSymbolBar bar (config.machine.after earlier)).1)])
        (config.onSymbolBar bar (config.machine.after earlier)).2.indicators
      rcases config.onSymbolBar_cases bar (config.machine.after earlier) with
        ⟨raised, raising⟩ | ⟨intents, executed, done, answered⟩
      · have unobserved : observed [(bar, Except.error raised)] = [] := rfl
        rw [raising, unobserved, List.append_nil]
        exact ih
      · have closing : observed [(bar, Except.ok intents)] = [bar.close] := rfl
        have longer : config.rsiPeriod < config.trendMaPeriod + 1 :=
          Nat.lt_succ_of_lt config.rsi_lt_trend
        rw [answered, closing, indicators_pend]
        rw [← done.indicators] at ih
        exact RsiState.averages_observe longer ih bar.close

theorem averages_of_seeded (config : Config) {bars : List Domain.Bar}
    (seeded : config.rsiPeriod < (observed (config.machine.calls bars)).length) :
    (config.machine.after bars).indicators.avgGain =
        WilderAverage.average config.rsiPeriod
          (RsiState.gains (observed (config.machine.calls bars))) ∧
      (config.machine.after bars).indicators.avgLoss =
        WilderAverage.average config.rsiPeriod
          (RsiState.losses (observed (config.machine.calls bars))) ∧
      (config.machine.after bars).indicators.closeHistory.length ≤ config.trendMaPeriod + 1 := by
  have averages := config.averages_after bars
  refine ⟨averages.avgGain.trans (WilderAverage.kept_of_le ?_),
    averages.avgLoss.trans (WilderAverage.kept_of_le ?_),
    averages.length.trans_le (min_le_right _ _)⟩
  · rw [RsiState.gains, List.length_map, WilderAverage.length_changes]
    exact Nat.le_sub_one_of_lt seeded
  · rw [RsiState.losses, List.length_map, WilderAverage.length_changes]
    exact Nat.le_sub_one_of_lt seeded

theorem averages_of_priced (config : Config) (bars : List Domain.Bar) (symbol : String)
    (priced : ∀ bar ∈ bars, bar.close ≠ 0)
    (seeded : config.rsiPeriod < (bars.filter (fun bar => bar.symbol = symbol)).length) :
    (config.machine.stateOf (config.strategy.after bars) symbol).indicators.avgGain =
        WilderAverage.average config.rsiPeriod (RsiState.gains
          ((bars.filter (fun bar => bar.symbol = symbol)).map Domain.Bar.close)) ∧
      (config.machine.stateOf (config.strategy.after bars) symbol).indicators.avgLoss =
        WilderAverage.average config.rsiPeriod (RsiState.losses
          ((bars.filter (fun bar => bar.symbol = symbol)).map Domain.Bar.close)) := by
  have stateOf_symbol := config.machine.stateOf_after_keyed Domain.Bar.symbol bars symbol
  rw [← strategy] at stateOf_symbol
  have closes := observed_of_returned (config.isOk_calls fun bar listed =>
    priced bar (List.mem_of_mem_filter (p := fun bar => bar.symbol = symbol) listed))
  rw [EventMachine.map_fst_calls] at closes
  rw [stateOf_symbol, ← closes]
  obtain ⟨gain, loss, _⟩ := config.averages_of_seeded
    (by rw [closes, List.length_map]; exact seeded)
  exact ⟨gain, loss⟩

/-- A trend of three closes, with one pair of closes dropped below. -/
def shortTrend : Config :=
  { trendMaPeriod := 3
    rsi_lt_trend := Nat.lt_succ_self 2 }

def risingDays : List Domain.Bar :=
  [flatBar "TCS" 0 100, flatBar "INFY" 0 50, flatBar "TCS" 1 101, flatBar "TCS" 2 103,
    flatBar "TCS" 3 106, flatBar "TCS" 4 110]

/-- The averages that are kept for a symbol are Wilder's over every close that was observed,
while the history keeps a bounded number of closes. -/
theorem averages_wilder (config : Config) (bars : List Domain.Bar) (symbol : String)
    (seeded : config.rsiPeriod < (observed ((config.strategy.calls bars).filter
      (fun call => call.1.symbol = symbol))).length) :
    (config.machine.stateOf (config.strategy.after bars) symbol).indicators.avgGain =
        WilderAverage.average config.rsiPeriod (RsiState.gains (observed
          ((config.strategy.calls bars).filter (fun call => call.1.symbol = symbol)))) ∧
      (config.machine.stateOf (config.strategy.after bars) symbol).indicators.avgLoss =
        WilderAverage.average config.rsiPeriod (RsiState.losses (observed
          ((config.strategy.calls bars).filter (fun call => call.1.symbol = symbol)))) ∧
      (config.machine.stateOf (config.strategy.after bars)
        symbol).indicators.closeHistory.length ≤ config.trendMaPeriod + 1 := by
  have stateOf_symbol := config.machine.stateOf_after_keyed Domain.Bar.symbol bars symbol
  have callsOf := config.machine.filter_calls_keyed Domain.Bar.symbol bars symbol
  rw [← strategy] at stateOf_symbol callsOf
  rw [callsOf] at seeded
  rw [stateOf_symbol, callsOf]
  exact config.averages_of_seeded seeded

theorem averages_wilder_shortTrend :
    (shortTrend.machine.stateOf (shortTrend.strategy.after risingDays)
        "TCS").indicators.avgGain =
      WilderAverage.average 2 (RsiState.gains [100, 101, 103, 106, 110]) := by
  have closes : observed ((shortTrend.strategy.calls risingDays).filter
      (fun call => call.1.symbol = "TCS")) = [100, 101, 103, 106, 110] := by
    decide +kernel
  have averages := shortTrend.averages_wilder risingDays "TCS" (by rw [closes]; decide)
  rw [closes] at averages
  exact averages.1

end Config

end TradingEngine.Rsi2MeanReversion
