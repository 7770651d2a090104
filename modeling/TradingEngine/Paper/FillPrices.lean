/-
The price that a market order is filled at.

Both brokers fill at the close of the bar that the engine is processing, whatever the
symbol of the order.  A strategy that trades two symbols on one bar gets one of its fills
at the price of the other symbol.
-/

import TradingEngine.Paper.Engine
import TradingEngine.Strategies.PairsTrading

namespace TradingEngine.Paper

open Backtest Domain Risk RoundLoop

variable {σ κ : Type}

def latestClose (symbol : String) (rows : List FeedRow) : Option ℚ :=
  ((rows.filter (fun row => row.bar.symbol = symbol)).getLast?).map (fun row => row.bar.close)

/-- The body of the loop over the intents of a bar. -/
abbrev IntentHandler (σ : Type) : Type :=
  FeedRow → OrderIntent → Session σ → Except EngineError (Session σ)

def newFill (handle : IntentHandler σ) (row : FeedRow) (intent : OrderIntent)
    (session : Session σ) : Option TradeFill :=
  match handle row intent session with
  | .error _raised => none
  | .ok after => (after.fills.drop session.fills.length).head?

/-- A market fill is priced, before slippage, at the latest close of its own symbol. -/
def PricedFromOwnBar (handle : IntentHandler σ) (past : List (SessionEvent σ)) :
    SessionEvent σ → Prop
  | .handled row intent session =>
      ∀ fill ∈ newFill handle row intent session, intent.orderType = .market →
        referencePrice intent row.bar = latestClose fill.symbol (rounds past)
  | _ => True

instance (handle : IntentHandler σ) (past : List (SessionEvent σ)) :
    (event : SessionEvent σ) → Decidable (PricedFromOwnBar handle past event)
  | .handled row intent session =>
      inferInstanceAs (Decidable (∀ fill ∈ newFill handle row intent session,
        intent.orderType = .market →
          referencePrice intent row.bar = latestClose fill.symbol (rounds past)))
  | .entered _row _session => isTrue trivial
  | .left _row _session => isTrue trivial

/-- A market intent that fills is for the symbol of the bar, or for one whose latest close
happens to be the same. -/
def TradesItsBar (handle : IntentHandler σ) (past : List (SessionEvent σ)) :
    SessionEvent σ → Prop
  | .handled row intent session =>
      (newFill handle row intent session).isSome = true → intent.orderType = .market →
        intent.symbol = row.bar.symbol ∨
          latestClose intent.symbol (rounds past) = some row.bar.close
  | _ => True

theorem latestClose_last {rows : List FeedRow} {row : FeedRow} (last : rows.getLast? = some row) :
    latestClose row.bar.symbol rows = some row.bar.close := by
  obtain ⟨earlier, rfl⟩ := List.getLast?_eq_some_iff.mp last
  unfold latestClose
  rw [List.filter_append, List.filter_singleton, decide_eq_true rfl, cond_true,
    List.getLast?_concat]
  rfl

section Backtest

variable {engine : BacktestEngine σ κ}

theorem symbol_newFill {row : FeedRow} {intent : OrderIntent} {session : Session σ}
    {fill : TradeFill} (filled : newFill engine.handleIntent row intent session = some fill) :
    fill.symbol = intent.symbol := by
  unfold newFill at filled
  cases handled : engine.handleIntent row intent session with
  | error raised =>
      rw [handled] at filled
      cases filled
  | ok after =>
      rw [handled] at filled
      obtain ⟨decision, riskState, _, ⟨_, rfl⟩ | ⟨refusal, _, _, rfl⟩⟩ :=
        BacktestEngine.handleIntent_cases handled
      · dsimp only at filled
        rw [List.drop_left] at filled
        unfold BacktestEngine.settlement BacktestPortfolio.settle at filled
        cases quoted : engine.simulatedBroker.quote (engine.fillId session.handled) intent
            row.bar with
        | none =>
            rw [quoted] at filled
            cases filled
        | some quote =>
            rw [quoted] at filled
            dsimp only at filled
            split_ifs at filled
            · cases filled
            · cases filled
              exact (SimulatedBroker.quoted quoted).symbol
      · dsimp only at filled
        rw [List.drop_length] at filled
        cases filled

theorem pricedFromOwnBar_iff {past : List (SessionEvent σ)} {event : SessionEvent σ}
    (opened : event.InLast (rounds past)) :
    PricedFromOwnBar engine.handleIntent past event ↔
      TradesItsBar engine.handleIntent past event := by
  cases event with
  | entered row session => exact Iff.rfl
  | left row session => exact Iff.rfl
  | handled row intent session =>
      have own : latestClose row.bar.symbol (rounds past) = some row.bar.close :=
        latestClose_last opened
      have reference : intent.orderType = .market →
          referencePrice intent row.bar = some row.bar.close := by
        intro market
        unfold referencePrice
        rw [market]
      unfold PricedFromOwnBar TradesItsBar
      dsimp only
      constructor
      · intro priced filled market
        obtain ⟨fill, found⟩ := Option.isSome_iff_exists.mp filled
        have shown := priced fill found market
        rw [reference market, symbol_newFill found] at shown
        exact Or.inr shown.symm
      · intro trades fill found market
        rw [reference market, symbol_newFill found]
        rcases trades (Option.isSome_iff_exists.mpr ⟨fill, found⟩) market with same | equal
        · rw [same, own]
        · exact equal.symm

theorem fill_price_along_iff (rows : List FeedRow) :
    Along (PricedFromOwnBar engine.handleIntent) [] (engine.traceRows rows) ↔
      Along (TradesItsBar engine.handleIntent) [] (engine.traceRows rows) :=
  (BacktestEngine.traceRows_inLast rows).congr (fun _past _event opened =>
    pricedFromOwnBar_iff opened)

end Backtest

/-! ### Both engines -/

/-- In a run of either engine every market fill is priced from its own symbol exactly when
every market intent that fills is for the symbol of the bar, or for one with the same latest
close. -/
theorem fill_price_own_iff :
    (∀ (engine : BacktestEngine σ κ) (candles : List Domain.Bar),
      Along (PricedFromOwnBar engine.handleIntent) [] (engine.traceRows (iterBars candles)) ↔
        Along (TradesItsBar engine.handleIntent) [] (engine.traceRows (iterBars candles))) ∧
      ∀ (engine : PaperTradingEngine σ κ) (rows : List FeedRow),
        Along (PricedFromOwnBar engine.handleIntent) [] (engine.traceRows (sortRows rows)) ↔
          Along (TradesItsBar engine.handleIntent) [] (engine.traceRows (sortRows rows)) := by
  constructor
  · intro engine candles
    exact fill_price_along_iff (iterBars candles)
  · intro engine rows
    have handle : engine.handleIntent = engine.asBacktest.handleIntent :=
      congrArg RoundLoop.item engine.loop_eq
    rw [handle, engine.traceRows_eq]
    exact fill_price_along_iff (sortRows rows)

/-! ### A pair on one bar -/

/-- Exact on the squares of rationals. -/
def ratSqrt (value : ℚ) : ℚ :=
  (Nat.sqrt value.num.toNat : ℚ) / Nat.sqrt value.den

def pairConfig : PairsTrading.Config :=
  { windowSize := 3
    entryZScore := 9 / 10
    quantityA_pos := Int.zero_lt_one
    quantityB_pos := Int.zero_lt_one
    one_lt_window := Nat.succ_lt_succ Nat.two_pos }

def pairEngine : BacktestEngine PairsTrading.PairState Unit :=
  { strategy := pairConfig.strategy Unit ratSqrt
    strategyState := PairsTrading.PairState.start
    portfolio := turningStart
    simulatedBroker := sampleBroker
    initialCash := 1000
    strategyId := "pairs_v1"
    symbols := ["HDFCBANK", "ICICIBANK"]
    parameters := ()
    riskEngine := none
    riskState := RiskState.new KillSwitch.new
    fillId := fun count => "fill_" ++ toString count
    riskDecisionId := fun count => "risk_" ++ toString count }

def pairBars : List Domain.Bar :=
  [flatBar "HDFCBANK" 0 100, flatBar "HDFCBANK" 60000000 130, flatBar "HDFCBANK" 120000000 160,
    flatBar "ICICIBANK" 0 100, flatBar "ICICIBANK" 60000000 100, flatBar "ICICIBANK" 120000000 100]

/-- The first leg sells at the close of the second, a hundred where its own is a hundred and
sixty. -/
theorem pair_not_own :
    ¬ Along (PricedFromOwnBar pairEngine.handleIntent) []
      (pairEngine.traceRows (iterBars pairBars)) := by
  decide +kernel

end TradingEngine.Paper
