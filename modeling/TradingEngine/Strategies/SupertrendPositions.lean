/-
The positions of `SupertrendStrategy` and of the deployed replay.

A position is opened on a bullish flip and closed at the latest on the bearish one, so it is
held in an up-trend only; then a bar that closes it cannot flip upwards as well.
-/

import TradingEngine.Scripts.DailyReplay
import TradingEngine.Strategies.Supertrend

namespace TradingEngine.Supertrend

open Domain Swing
open Intraday (Intent)
open SupertrendTrader (Bands Flip Trend)

/-- A position is held in an up-trend only. -/
def SymbolState.BullishWhileHeld (state : SymbolState) : Prop :=
  state.position ≠ none → state.trend = .bullish

theorem newTrend_cases (close : ℚ) (bands : Bands ℚ) (prevTrend : Trend) :
    newTrend close bands prevTrend = .bullish ∨ newTrend close bands prevTrend = .bearish ∨
      newTrend close bands prevTrend = prevTrend := by
  unfold newTrend
  split_ifs
  · exact Or.inl rfl
  · exact Or.inr (Or.inl rfl)
  · exact Or.inr (Or.inr rfl)

namespace Config

variable {config : Config} {bar : Domain.Bar} {state : SymbolState}

theorem Traded.bullish {flip : Flip} {position after : Option Holding} {intents : List Intent}
    (traded : Traded config bar flip position intents after)
    (before : position ≠ none → flip.prevTrend = .bullish)
    (turns : flip.newTrend = .bullish ∨ flip.newTrend = .bearish ∨
      flip.newTrend = flip.prevTrend)
    (held : after ≠ none) : flip.newTrend = .bullish := by
  cases traded with
  | nothing _ stays =>
      obtain ⟨holding, same⟩ := Option.ne_none_iff_exists'.mp held
      have up := before held
      rcases turns with bullish | bearish | unchanged
      · exact bullish
      · have falling : flip.isBearish = true :=
          Bool.and_eq_true_iff.mpr ⟨decide_eq_true bearish, decide_eq_true up⟩
        exact absurd ((stays holding same).symm.trans falling) Bool.false_ne_true
      · exact unchanged.trans up
  | exit holding reason => exact absurd rfl held
  | entry flips => exact of_decide_eq_true (Bool.and_eq_true_iff.mp flips).1

theorem bullishWhileHeld_onSymbolBar (config : Config) (bar : Domain.Bar)
    (bullish : state.BullishWhileHeld) :
    (config.onSymbolBar bar state).2.BullishWhileHeld := by
  rcases config.onSymbolBar_cases bar state with
    ⟨_, answered⟩ | ⟨_, raising⟩ | ⟨bands, _, _, _, traded, answered⟩
  · rw [answered]
    exact bullish
  · rw [raising]
    exact bullish
  · rw [answered]
    exact traded.bullish bullish (newTrend_cases bar.close bands state.trend)

theorem Traded.length_le_one {flip : Flip} {position after : Option Holding}
    {intents : List Intent} (traded : Traded config bar flip position intents after) :
    intents.length ≤ 1 := by
  cases traded with
  | nothing => exact Nat.zero_le 1
  | exit holding reason => exact le_refl 1
  | entry flips => exact le_refl 1

theorem length_onSymbolBar_le_one (config : Config) (bar : Domain.Bar) (state : SymbolState) :
    (config.onSymbolBar bar state).1.intents.length ≤ 1 := by
  rcases config.onSymbolBar_cases bar state with
    ⟨_, answered⟩ | ⟨_, raising⟩ | ⟨_, _, _, _, traded, answered⟩
  · rw [answered]
    exact Nat.zero_le 1
  · rw [raising]
    exact Nat.zero_le 1
  · rw [answered]
    exact traded.length_le_one

theorem bullishWhileHeld_after (config : Config) (bars : List Domain.Bar) (symbol : String) :
    (config.machine.stateOf (config.strategy.after bars) symbol).BullishWhileHeld := by
  have ofSymbol := config.machine.stateOf_after_keyed Domain.Bar.symbol bars symbol
  rw [← strategy] at ofSymbol
  rw [ofSymbol]
  refine config.machine.after_invariant SymbolState.BullishWhileHeld ?_ ?_ _
  · exact fun held => absurd rfl held
  · exact fun bar _ bullish => config.bullishWhileHeld_onSymbolBar bar bullish

end Config

theorem length_actionsAt_le_one {K : Type} [Field K] [LinearOrder K] [FloorRing K]
    (params : SupertrendTrader.Params K) (df : Frame K) (i : ℕ) :
    (params.rules.actionsAt df i).length ≤ 1 := by
  cases found : df.bars[i]? with
  | none =>
      unfold ReplayRules.actionsAt
      rw [found]
      exact Nat.zero_le 1
  | some bar =>
      have single := params.rules_singleActions df i bar found
      generalize (params.rules.stateAfter df i).book.position = position at single
      generalize params.rules.actionsAt df i = actions at single ⊢
      cases single with
      | nothing => exact Nat.zero_le 1
      | enter => exact le_refl 1
      | close => exact le_refl 1

/-- At the start of every bar a position is carried in an up-trend only, and no bar orders
twice, in every run of the strategy and of the replay. -/
theorem position_implies_uptrend {K : Type} [Field K] [LinearOrder K] [FloorRing K]
    (config : Config) (params : SupertrendTrader.Params K) :
    (∀ (bars : List Domain.Bar) (symbol : String),
      (config.machine.stateOf (config.strategy.after bars) symbol).position ≠ none →
        (config.machine.stateOf (config.strategy.after bars) symbol).trend = .bullish) ∧
    (∀ (bars : List Domain.Bar), ∀ call ∈ config.strategy.calls bars,
      call.2.intents.length ≤ 1) ∧
    (∀ (df : Frame K) (i : ℕ), (params.rules.stateAfter df i).book.position ≠ none →
      (params.rules.stateAfter df i).indicators.trend = .bullish) ∧
    (∀ (df : Frame K) (i : ℕ), (params.rules.actionsAt df i).length ≤ 1) := by
  refine ⟨config.bullishWhileHeld_after, ?_, params.stateAfter_bullishWhileHeld,
    length_actionsAt_le_one params⟩
  intro bars call member
  obtain ⟨states, answered⟩ := EventMachine.exists_state_of_mem_calls _ member
  rw [← answered]
  exact config.length_onSymbolBar_le_one call.1 _

end TradingEngine.Supertrend
