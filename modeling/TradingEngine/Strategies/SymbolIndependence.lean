/-
The strategies that serve several symbols with one instance.

Each of them keeps a dictionary of states by symbol, answers a bar from the state of its
symbol alone and orders for that symbol only.
-/

import TradingEngine.Strategies.FirstHourMomentum
import TradingEngine.Strategies.MAPullbackOrders
import TradingEngine.Strategies.Rsi2Orders
import TradingEngine.Strategies.Supertrend

namespace TradingEngine

open Domain Swing
open EventMachine (emitted)

variable {σ α β : Type}

/-- What the strategy sends for a symbol is what it sends when it is fed the bars of that
symbol only, in the same order and on the same bars. -/
def SymbolIndependent (strategy : EventMachine Domain.Bar σ α) (emits : α → List β)
    (symbolOf : β → String) : Prop :=
  ∀ (bars : List Domain.Bar) (symbol : String),
    (emitted emits (strategy.calls bars)).filter (fun sent => symbolOf sent.2 = symbol) =
      emitted emits (strategy.calls (bars.filter (fun bar => bar.symbol = symbol)))

theorem symbolIndependent_keyed (machine : EventMachine Domain.Bar σ α) {emits : α → List β}
    {symbolOf : β → String}
    (owned : ∀ bar state, ∀ intent ∈ emits (machine.step bar state).1,
      symbolOf intent = bar.symbol) :
    SymbolIndependent (machine.keyed Domain.Bar.symbol) emits symbolOf :=
  machine.filter_emitted_keyed owned

open SupertrendTrader (Flip) in
theorem Supertrend.Config.Traded.symbol {config : Supertrend.Config} {bar : Domain.Bar}
    {flip : Flip} {position after : Option Holding} {intents : List Intraday.Intent}
    (traded : Traded config bar flip position intents after) :
    ∀ intent ∈ intents, intent.symbol = bar.symbol := by
  cases traded with
  | nothing => exact fun intent member => absurd member List.not_mem_nil
  | exit held reason => exact List.forall_mem_singleton.mpr rfl
  | entry flips => exact List.forall_mem_singleton.mpr rfl

theorem Supertrend.Config.symbol_of_onSymbolBar (config : Supertrend.Config) (bar : Domain.Bar)
    (state : Supertrend.SymbolState) :
    ∀ intent ∈ (config.onSymbolBar bar state).1.intents, intent.symbol = bar.symbol := by
  rcases config.onSymbolBar_cases bar state with
    ⟨_, answered⟩ | ⟨_, raising⟩ | ⟨_, _, _, _, traded, answered⟩
  · rw [answered]
    exact fun intent member => absurd member List.not_mem_nil
  · rw [raising]
    exact fun intent member => absurd member List.not_mem_nil
  · rw [answered]
    exact traded.symbol

theorem Rsi2MeanReversion.Config.symbol_of_onSymbolBar (config : Rsi2MeanReversion.Config)
    (bar : Domain.Bar) (state : Rsi2MeanReversion.SymbolState) :
    ∀ intent ∈ (config.onSymbolBar bar state).1.intents, intent.symbol = bar.symbol := by
  rcases config.onSymbolBar_cases bar state with ⟨_, raising⟩ | ⟨_, _, executed, answered⟩
  · rw [raising]
    exact fun intent member => absurd member List.not_mem_nil
  · rw [answered]
    cases executed with
    | sell reason held pending long => exact List.forall_mem_singleton.mpr rfl
    | buy noSale pending => exact List.forall_mem_singleton.mpr rfl
    | nothing noSale noPurchase => exact fun intent member => absurd member List.not_mem_nil

/-- The orders of a call to `MAPullbackStrategy`. -/
def MAPullback.ordersOf :
    Except EngineError (List Domain.OrderIntent) → List Domain.OrderIntent
  | .ok orders => orders
  | .error _ => []

/-- No symbol's bars change what the four strategies order for another symbol. -/
theorem symbol_independence {K : Type} [Field K] [LinearOrder K] [FloorRing K]
    (maPullback : MAPullback.Config K) (float : ℚ → K) (supertrend : Supertrend.Config)
    (rsi2 : Rsi2MeanReversion.Config) (firstHour : FirstHourMomentum.Config) :
    SymbolIndependent (maPullback.sweep float) MAPullback.ordersOf Domain.OrderIntent.symbol ∧
      SymbolIndependent supertrend.strategy Answer.intents (fun intent => intent.symbol) ∧
      SymbolIndependent rsi2.strategy Answer.intents (fun intent => intent.symbol) ∧
      SymbolIndependent firstHour.strategy id (fun intent => intent.symbol) := by
  refine ⟨?_, ?_, ?_, ?_⟩
  · apply symbolIndependent_keyed (maPullback.machine float)
    intro bar state
    change ∀ order ∈ MAPullback.ordersOf (maPullback.onSymbolCall float bar state).1, _
    cases answered : (maPullback.onSymbolCall float bar state).1 with
    | error raised => exact fun order member => absurd member List.not_mem_nil
    | ok orders => exact MAPullback.Config.symbol_of_onSymbolCall answered
  · exact symbolIndependent_keyed supertrend.machine supertrend.symbol_of_onSymbolBar
  · exact symbolIndependent_keyed rsi2.machine rsi2.symbol_of_onSymbolBar
  · exact symbolIndependent_keyed firstHour.machine
      (fun bar state => (firstHour.limited.move bar state).symbol)

end TradingEngine
