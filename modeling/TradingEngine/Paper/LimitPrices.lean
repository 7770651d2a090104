/-
The price that a limit order is filled at.

Both brokers test the limit against the bar and then slip the limit itself, so a limit order
fills beyond its limit by the slippage and the rounding to paise, and by no more.
-/

import TradingEngine.Backtest.Engine
import TradingEngine.Paper.Broker

namespace TradingEngine.Paper

open Backtest Domain DecimalRounding
open Signals (Side)

/-- The limit moved against the order by the slippage, and rounded. -/
structure FilledAtLimit (slippageModel : SlippageModel) (side : Side) (limitPrice price : ℚ) :
    Prop where
  slipped : price = slippageModel.slipped side limitPrice
  buy_le : side = .buy → price ≤ limitPrice * (1 + slippageModel.bps / 10000) + 1 / 200
  le_sell : side = .sell → limitPrice * (1 - slippageModel.bps / 10000) - 1 / 200 ≤ price
  atLimit : slippageModel.bps = 0 → Settled 2 limitPrice → price = limitPrice

theorem filledAtLimit_slipped (slippageModel : SlippageModel) (side : Side) (limitPrice : ℚ) :
    FilledAtLimit slippageModel side limitPrice (slippageModel.slipped side limitPrice) := by
  have paise : (1 : ℚ) / 2 / 10 ^ 2 = 1 / 200 := by norm_num
  refine ⟨rfl, ?_, ?_, ?_⟩
  · rintro rfl
    have near := quantize_error 2 (limitPrice + limitPrice * (slippageModel.bps / 10000))
    rw [paise] at near
    have above := (abs_le.mp near).2
    change quantize 2 (limitPrice + limitPrice * (slippageModel.bps / 10000)) ≤ _
    linarith
  · rintro rfl
    have near := quantize_error 2 (limitPrice - limitPrice * (slippageModel.bps / 10000))
    rw [paise] at near
    have below := (abs_le.mp near).1
    change _ ≤ quantize 2 (limitPrice - limitPrice * (slippageModel.bps / 10000))
    linarith
  · intro free settled
    have same := quantize_of_settled settled
    unfold SlippageModel.slipped
    rw [free, zero_div, mul_zero]
    cases side with
    | buy =>
        dsimp only
        rw [add_zero, same]
    | sell =>
        dsimp only
        rw [sub_zero, same]

theorem referencePrice_of_limit {intent : OrderIntent} {bar : Domain.Bar} {reference : ℚ}
    (limit : intent.orderType = .limit) (found : referencePrice intent bar = some reference) :
    intent.price = some reference := by
  unfold referencePrice at found
  rw [limit] at found
  cases price : intent.price with
  | none =>
      rw [price] at found
      cases found
  | some limitPrice =>
      rw [price] at found
      cases side : intent.side with
      | buy =>
          rw [side] at found
          dsimp only at found
          split_ifs at found
          exact found
      | sell =>
          rw [side] at found
          dsimp only at found
          split_ifs at found
          exact found

theorem quote_of_settle {portfolio after : BacktestPortfolio} {quoted : Option TradeFill}
    {fill : TradeFill} (settled : portfolio.settle quoted = (some fill, after)) :
    quoted = some fill := by
  cases quoted with
  | none => cases settled
  | some quote =>
      unfold BacktestPortfolio.settle at settled
      dsimp only at settled
      split_ifs at settled
      · cases settled
      · exact (Prod.mk.inj settled).1

section Simulated

variable {broker : SimulatedBroker} {fillId : String} {intent : OrderIntent} {bar : Domain.Bar}
  {portfolio after : BacktestPortfolio} {fill : TradeFill}

theorem simulated_filledAtLimit (limit : intent.orderType = .limit)
    (filled : caught (broker.executeOrderIntent fillId intent bar portfolio) =
      (some fill, after)) :
    ∃ limitPrice, intent.price = some limitPrice ∧ fill.side = intent.side ∧
      FilledAtLimit broker.slippageModel fill.side limitPrice fill.price := by
  rw [SimulatedBroker.caught_executeOrderIntent] at filled
  have quoted := SimulatedBroker.quoted (quote_of_settle filled)
  obtain ⟨reference, found, _positive, price⟩ := quoted.reference
  refine ⟨reference, referencePrice_of_limit limit found, quoted.side, ?_⟩
  rw [price, quoted.side]
  exact filledAtLimit_slipped broker.slippageModel intent.side reference

end Simulated

/-- A limit order that either broker fills is filled at its limit moved against it by the
slippage and rounded to paise. -/
theorem limit_filled_within_slippage (fillId : String) (intent : OrderIntent) (bar : Domain.Bar)
    (portfolio after : BacktestPortfolio) (fill : TradeFill) (limit : intent.orderType = .limit) :
    (∀ broker : SimulatedBroker,
      broker.executeOrderIntent fillId intent bar portfolio = (.ok (some fill), after) →
        ∃ limitPrice, intent.price = some limitPrice ∧ fill.side = intent.side ∧
          FilledAtLimit broker.slippageModel fill.side limitPrice fill.price) ∧
      ∀ broker : PaperExecutionBroker,
        broker.executeOrderIntent fillId intent bar portfolio = (.ok (some fill), after) →
          ∃ limitPrice, intent.price = some limitPrice ∧ fill.side = intent.side ∧
            FilledAtLimit broker.slippageModel fill.side limitPrice fill.price := by
  constructor
  · intro broker filled
    have swallowed := congrArg caught filled
    exact simulated_filledAtLimit limit swallowed
  · intro broker filled
    have swallowed := congrArg caught filled
    rw [PaperExecutionBroker.caught_executeOrderIntent] at swallowed
    exact simulated_filledAtLimit limit swallowed

/-! ### A buy above its limit -/

def paperSample : PaperExecutionBroker :=
  { costModel := sampleBroker.costModel
    slippageModel := sampleBroker.slippageModel
    py := sampleBroker.py
    decimalText := sampleBroker.decimalText }

def filledPrice (result : Except ExecutionError (Option TradeFill) × BacktestPortfolio) :
    Option ℚ :=
  (caught result).1.map (fun fill => fill.price)

/-- With the default two basis points a purchase with limit 490 fills at 490.10 and a sale at
489.90. -/
theorem limitOrder_beyond_limit :
    filledPrice (sampleBroker.executeOrderIntent "F1" (limitOrder "INFY" .buy 490)
        (flatBar "INFY" 0 490) turningStart) = some 490.1 ∧
      filledPrice (sampleBroker.executeOrderIntent "F1" (limitOrder "INFY" .sell 490)
        (flatBar "INFY" 0 490) turningStart) = some 489.9 ∧
      filledPrice (paperSample.executeOrderIntent "F1" (limitOrder "INFY" .buy 490)
        (flatBar "INFY" 0 490) turningStart) = some 490.1 ∧
      filledPrice (paperSample.executeOrderIntent "F1" (limitOrder "INFY" .sell 490)
        (flatBar "INFY" 0 490) turningStart) = some 489.9 := by
  decide +kernel

theorem exists_fill_of_isSome
    {result : Except ExecutionError (Option TradeFill) × BacktestPortfolio}
    (filled : (filledPrice result).isSome = true) :
    ∃ fill after, result = (.ok (some fill), after) := by
  obtain ⟨answer, after⟩ := result
  cases answer with
  | error raised => cases filled
  | ok answer =>
      cases answer with
      | none => cases filled
      | some fill => exact ⟨fill, after, rfl⟩

theorem limitOrder_within_slippage :
    ∃ fill after limitPrice,
      sampleBroker.executeOrderIntent "F1" (limitOrder "INFY" .buy 490) (flatBar "INFY" 0 490)
          turningStart = (.ok (some fill), after) ∧
        (limitOrder "INFY" .buy 490).price = some limitPrice ∧
        FilledAtLimit sampleBroker.slippageModel fill.side limitPrice fill.price := by
  have isFilled : (filledPrice (sampleBroker.executeOrderIntent "F1" (limitOrder "INFY" .buy 490)
      (flatBar "INFY" 0 490) turningStart)).isSome = true := by
    decide +kernel
  obtain ⟨fill, after, filled⟩ := exists_fill_of_isSome isFilled
  obtain ⟨limitPrice, given, _side, atLimit⟩ :=
    (limit_filled_within_slippage "F1" (limitOrder "INFY" .buy 490) (flatBar "INFY" 0 490)
      turningStart after fill rfl).1 sampleBroker filled
  exact ⟨fill, after, limitPrice, filled, given, atLimit⟩

end TradingEngine.Paper
