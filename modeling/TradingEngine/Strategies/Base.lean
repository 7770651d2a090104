/-
The base class of the strategies that the engines drive.

A strategy is what its callbacks do to its own state.  `on_start` and `on_bar` are
the callbacks that an engine calls and a strategy defines; both may raise.
-/

import TradingEngine.Domain.Models

namespace TradingEngine.Strategies

open Domain

inductive Mode where
  | backtest
  | paper
  | live
deriving DecidableEq

/-- The context of a callback; `κ` is the type of the configuration. -/
structure StrategyContext (κ : Type) where
  strategyId : String
  mode : Mode
  config : κ

structure Strategy (σ κ : Type) where
  onStart : StrategyContext κ → σ → Except EngineError σ
  onBar : Domain.Bar → StrategyContext κ → σ → Except EngineError (List OrderIntent × σ)

namespace Strategy

variable {σ κ : Type}

/-- The `on_start` of the base class. -/
def noStart (_context : StrategyContext κ) (state : σ) : Except EngineError σ :=
  .ok state

/-- The strategy does not look at the mode or the configuration of its context. -/
structure IgnoresContext (strategy : Strategy σ κ) : Prop where
  onStart : ∀ context other state, context.strategyId = other.strategyId →
    strategy.onStart context state = strategy.onStart other state
  onBar : ∀ bar context other state, context.strategyId = other.strategyId →
    strategy.onBar bar context state = strategy.onBar bar other state

def inMode (strategy : Strategy σ κ) (mode : Mode) : Strategy σ κ :=
  { onStart := fun context => strategy.onStart { context with mode := mode }
    onBar := fun bar context => strategy.onBar bar { context with mode := mode } }

end Strategy

end TradingEngine.Strategies
