/-
The holdings of a strategy against the portfolio of its backtest.

The MA Pullback strategy counts an order as traded when it gives it.  No engine tells a
strategy what became of its orders, so one order that is not filled leaves the two apart.
-/

import TradingEngine.Backtest.Engine
import TradingEngine.Strategies.MAPullbackOrders

namespace TradingEngine.Backtest

open Domain Risk RoundLoop
open BacktestPortfolio (new)
open MAPullback (Config States Ordered entryQty holding)
open Signals (Side)

/-! ### What the portfolio holds -/

namespace BacktestPortfolio

variable {portfolio : BacktestPortfolio}

/-- The quantity of a symbol, zero without a position. -/
def heldQuantity (portfolio : BacktestPortfolio) (symbol : String) : ℤ :=
  (portfolio.positions.get? symbol).elim 0 PositionState.quantity

theorem heldQuantity_markToMarket (portfolio : BacktestPortfolio) (timestamp : Datetime)
    (latestPrices : OrderedDict String ℚ) (symbol : String) :
    (portfolio.markToMarket timestamp latestPrices).heldQuantity symbol =
      portfolio.heldQuantity symbol := by
  change ((portfolio.positions.mapValues (markPosition latestPrices)).get? symbol).elim 0
    PositionState.quantity = _
  rw [OrderedDict.get?_mapValues]
  unfold heldQuantity
  cases portfolio.positions.get? symbol with
  | none => rfl
  | some pos =>
      change (markPosition latestPrices symbol pos).quantity = pos.quantity
      unfold markPosition
      cases latestPrices.get? symbol with
      | none => rfl
      | some price =>
          dsimp only
          split_ifs <;> rfl

theorem quantity_positionFor (portfolio : BacktestPortfolio) (fill : TradeFill) :
    (portfolio.positionFor fill).quantity = portfolio.heldQuantity fill.symbol := by
  unfold positionFor heldQuantity
  cases portfolio.positions.get? fill.symbol <;> rfl

theorem heldQuantity_settle {fill : TradeFill}
    (accepted : ¬ Oversells (portfolio.positionFor fill) fill) (symbol : String) :
    (portfolio.settle (some fill)).2.heldQuantity symbol =
      if symbol = fill.symbol then portfolio.heldQuantity symbol + signedQuantity fill
      else portfolio.heldQuantity symbol := by
  unfold settle
  dsimp only
  rw [if_neg accepted]
  change ((portfolio.afterFill fill).positions.get? symbol).elim 0 PositionState.quantity = _
  rw [afterFill_get?]
  by_cases same : symbol = fill.symbol
  · rw [if_pos ⟨same, accepted⟩, if_pos same, same, ← quantity_positionFor]
    exact afterPosition_quantity _ fill
  · rw [if_neg (fun both => same both.1), if_neg same]
    rfl

theorem getSnapshot_of_empty (empty : portfolio.positions = OrderedDict.empty) (py : Python) :
    portfolio.getSnapshot py = .ok emptySnapshot := by
  have positions : portfolio.positions.entries.mapM (fun entry => toPosition py entry.2) =
      .ok [] := by
    rw [empty]
    rfl
  have worthless : ¬ portfolio.grossExposure < 0 := by
    unfold grossExposure
    rw [empty, OrderedDict.total_empty, OrderedDict.total_empty, add_zero]
    exact lt_irrefl 0
  unfold getSnapshot
  rw [positions]
  dsimp only
  rw [if_neg worthless, empty]
  rfl

end BacktestPortfolio

/-! ### Orders that can be filled -/

/-- A market order on this side can be filled on the bar. -/
structure Tradable (broker : SimulatedBroker) (side : Side) (bar : Domain.Bar) : Prop where
  close_pos : 0 < bar.close
  slipped_pos : 0 < broker.slippageModel.slipped side bar.close
  exchange : Exchange.ofText bar.exchange ≠ none
  named : broker.py.isBlank bar.symbol = false

instance (broker : SimulatedBroker) (side : Side) (bar : Domain.Bar) :
    Decidable (Tradable broker side bar) :=
  decidable_of_iff
    (0 < bar.close ∧ 0 < broker.slippageModel.slipped side bar.close ∧
      Exchange.ofText bar.exchange ≠ none ∧ broker.py.isBlank bar.symbol = false)
    ⟨fun ⟨close_pos, slipped_pos, exchange, named⟩ =>
      { close_pos := close_pos
        slipped_pos := slipped_pos
        exchange := exchange
        named := named },
    fun tradable =>
      ⟨tradable.close_pos, tradable.slipped_pos, tradable.exchange, tradable.named⟩⟩

namespace SimulatedBroker

variable {broker : SimulatedBroker} {fillId : String} {intent : OrderIntent} {bar : Domain.Bar}

theorem quote_ne_none_iff (market : intent.orderType = .market)
    (symbol : intent.symbol = bar.symbol) (exchange : intent.exchange = bar.exchange) :
    broker.quote fillId intent bar ≠ none ↔ Tradable broker intent.side bar := by
  have atClose : referencePrice intent bar = some bar.close := by
    unfold referencePrice
    rw [market]
  constructor
  · intro present
    obtain ⟨fill, found⟩ := Option.ne_none_iff_exists'.mp present
    have facts := quoted found
    obtain ⟨price, reference, positive, paid⟩ := facts.reference
    rw [atClose] at reference
    cases reference
    exact
      { close_pos := positive
        slipped_pos := paid ▸ fill.price_pos
        exchange := by
          rw [← exchange, facts.exchange]
          nofun
        named := symbol ▸ facts.named }
  · intro tradable
    obtain ⟨known, found⟩ := Option.ne_none_iff_exists'.mp tradable.exchange
    have positive := intent.shape.quantity_pos
    have unslipped : ¬ bar.close ≤ 0 := not_le.mpr tradable.close_pos
    have fees : 0 ≤ DecimalRounding.quantize 2 (broker.costModel.totalCharge intent.side
        (intent.quantity * broker.slippageModel.slipped intent.side bar.close)) :=
      broker.costModel.fees_nonneg positive tradable.slipped_pos
    unfold quote fillAt makeFill SlippageModel.apply
    rw [atClose, Option.bind_some, if_neg unslipped]
    change (Except.toOption _) ≠ none
    rw [broker.costModel.calculateFees_pos positive tradable.slipped_pos, exchange, found, symbol,
      tradable.named]
    dsimp only
    rw [if_neg Bool.false_ne_true, dif_pos positive, dif_pos tradable.slipped_pos, dif_pos fees]
    nofun

end SimulatedBroker

/-! ### Coherence -/

variable {K : Type} {states next : States K} {portfolio : BacktestPortfolio}

/-- The strategy is `LONG` exactly when the portfolio holds its positive `entry_qty`, and flat
exactly when the portfolio holds none. -/
def CoherentAt (states : States K) (portfolio : BacktestPortfolio) (symbol : String) : Prop :=
  ((holding states symbol).isSome = true ↔
      portfolio.heldQuantity symbol = entryQty states symbol ∧ 0 < entryQty states symbol) ∧
    ((holding states symbol).isSome = false ↔ portfolio.heldQuantity symbol = 0)

instance (states : States K) (portfolio : BacktestPortfolio) (symbol : String) :
    Decidable (CoherentAt states portfolio symbol) :=
  inferInstanceAs (Decidable (_ ∧ _))

def Coherent (states : States K) (portfolio : BacktestPortfolio) : Prop :=
  ∀ symbol, CoherentAt states portfolio symbol

theorem coherentAt_iff (states : States K) (portfolio : BacktestPortfolio) (symbol : String) :
    CoherentAt states portfolio symbol ↔
      portfolio.heldQuantity symbol = entryQty states symbol ∧
        (holding states symbol ≠ none → 0 < entryQty states symbol) := by
  unfold CoherentAt entryQty
  cases holding states symbol with
  | none =>
      simp only [Option.isSome_none, Option.elim_none]
      constructor
      · rintro ⟨_, flat⟩
        exact ⟨flat.mp trivial, fun isOpen => absurd rfl isOpen⟩
      · rintro ⟨flat, _⟩
        exact ⟨iff_of_false Bool.false_ne_true (fun both => lt_irrefl 0 both.2),
          iff_of_true trivial flat⟩
  | some held =>
      simp only [Option.isSome_some, Option.elim_some]
      constructor
      · rintro ⟨long, _⟩
        obtain ⟨same, positive⟩ := long.mp trivial
        exact ⟨same, fun _isOpen => positive⟩
      · rintro ⟨same, positive⟩
        have isOpen : 0 < held.entryQty := positive nofun
        refine ⟨iff_of_true trivial ⟨same, isOpen⟩, iff_of_false nofun ?_⟩
        omega

theorem Coherent.of_same (coherent : Coherent states portfolio)
    (same : ∀ symbol, holding next symbol = holding states symbol) :
    Coherent next portfolio := by
  intro symbol
  have before := coherent symbol
  unfold CoherentAt entryQty at before ⊢
  rw [same]
  exact before

theorem Coherent.not_of_ordered (coherent : Coherent states portfolio) {bar : Domain.Bar}
    {intent : OrderIntent} (ordered : Ordered states next bar intent) :
    ¬ Coherent next portfolio := by
  intro after
  have positive := intent.shape.quantity_pos
  have before := ((coherentAt_iff states portfolio bar.symbol).mp (coherent bar.symbol)).1
  have moved := ((coherentAt_iff next portfolio bar.symbol).mp (after bar.symbol)).1
  have traded := ordered.traded
  cases side : intent.side with
  | buy =>
      rw [side] at traded
      dsimp only at traded
      omega
  | sell =>
      rw [side] at traded
      dsimp only at traded
      omega

theorem Coherent.settle (coherent : Coherent states portfolio) {bar : Domain.Bar}
    {intent : OrderIntent} (ordered : Ordered states next bar intent) {broker : SimulatedBroker}
    {fillId : String} {fill : TradeFill} (quoted : broker.Quoted fillId intent bar fill) :
    Coherent next (portfolio.settle (some fill)).2 := by
  have traded_symbol : fill.symbol = bar.symbol := quoted.symbol.trans ordered.symbol
  have before := ((coherentAt_iff states portfolio bar.symbol).mp (coherent bar.symbol)).1
  have accepted : ¬ Oversells (portfolio.positionFor fill) fill := by
    rintro ⟨sell, _, short⟩
    have covered := ordered.covered (quoted.side ▸ sell)
    rw [portfolio.quantity_positionFor, traded_symbol, quoted.quantity] at short
    omega
  intro symbol
  rw [coherentAt_iff, BacktestPortfolio.heldQuantity_settle accepted, traded_symbol]
  by_cases same : symbol = bar.symbol
  · rw [if_pos same, same]
    refine ⟨?_, ordered.entered⟩
    rw [ordered.traded, before]
    unfold signedQuantity
    rw [quoted.side]
    cases intent.side with
    | buy => exact congrArg _ quoted.quantity
    | sell => exact congrArg (fun sold => _ + -sold) quoted.quantity
  · have unmoved := (coherentAt_iff states portfolio symbol).mp (coherent symbol)
    unfold entryQty at unmoved ⊢
    rw [if_neg same, ordered.others symbol same]
    exact unmoved

theorem coherent_markToMarket_iff (states : States K) (portfolio : BacktestPortfolio)
    (timestamp : Datetime) (latestPrices : OrderedDict String ℚ) :
    Coherent states (portfolio.markToMarket timestamp latestPrices) ↔
      Coherent states portfolio := by
  unfold Coherent CoherentAt
  simp only [BacktestPortfolio.heldQuantity_markToMarket]

/-! ### Rounds -/

def CoherentAfterAt (symbol : String) : SessionEvent (States K) → Prop
  | .left row session =>
      CoherentAt session.strategyState (BacktestEngine.mark row session).portfolio symbol
  | .entered _row _session => True
  | .handled _row _intent _session => True

instance (symbol : String) :
    (event : SessionEvent (States K)) → Decidable (CoherentAfterAt symbol event)
  | .left _row _session => inferInstanceAs (Decidable (CoherentAt _ _ _))
  | .entered _row _session => isTrue trivial
  | .handled _row _intent _session => isTrue trivial

def CoherentAfter (event : SessionEvent (States K)) : Prop :=
  ∀ symbol, CoherentAfterAt symbol event

theorem coherentAfter_left_iff (row : FeedRow) (session : Session (States K)) :
    CoherentAfter (.left row session) ↔ Coherent session.strategyState session.portfolio :=
  coherent_markToMarket_iff _ _ _ _

namespace BacktestEngine

variable {κ : Type} (engine : BacktestEngine (States K) κ)

/-- An order of the strategy passes no risk engine and can be filled on its bar. -/
def Unimpeded : SessionEvent (States K) → Prop
  | .handled row intent _session =>
      engine.riskEngine = none ∧ Tradable engine.simulatedBroker intent.side row.bar
  | .entered _row _session => True
  | .left _row _session => True

instance : (event : SessionEvent (States K)) → Decidable (engine.Unimpeded event)
  | .handled _row _intent _session => inferInstanceAs (Decidable (_ ∧ _))
  | .entered _row _session => isTrue trivial
  | .left _row _session => isTrue trivial

/-- What holds between the bars of a run whose orders are unimpeded. -/
structure InStep (session : Session (States K)) : Prop where
  coherent : Coherent session.strategyState session.portfolio
  untouched : engine.riskEngine ≠ none → session.portfolio.positions = OrderedDict.empty

/-- What a bar does: the strategy raises, stays quiet or gives one order. -/
inductive Round (row : FeedRow) (session : Session (States K)) :
    List (SessionEvent (States K)) → Except EngineError (Session (States K)) → Prop
  | failed (raised : EngineError) : Round row session [.entered row session] (.error raised)
  | quiet (opened : Session (States K))
      (coherent : Coherent opened.strategyState opened.portfolio)
      (untouched : opened.portfolio = session.portfolio) :
      Round row session [.entered row session, .left row opened] (.ok (mark row opened))
  | ordered (opened : Session (States K)) (intent : OrderIntent) (next : Session (States K))
      (outcome : Coherent next.strategyState next.portfolio ↔
        engine.Unimpeded (.handled row intent opened)) :
      Round row session [.entered row session, .handled row intent opened, .left row next]
        (.ok (mark row next))

variable {engine}

theorem handleIntent_ordered {session opened : Session (States K)}
    (inStep : engine.InStep session) (untouched : opened.portfolio = session.portfolio)
    {row : FeedRow} {intent : OrderIntent}
    (ordered : Ordered session.strategyState opened.strategyState row.bar intent) :
    ∃ next, engine.handleIntent row intent opened = .ok next ∧
      (Coherent next.strategyState next.portfolio ↔
        engine.Unimpeded (.handled row intent opened)) := by
  have counted : ¬ Coherent opened.strategyState opened.portfolio := by
    rw [untouched]
    exact inStep.coherent.not_of_ordered ordered
  unfold Unimpeded
  cases guard : engine.riskEngine with
  | none =>
      refine ⟨_, handleIntent_of_none guard row intent opened, ?_⟩
      dsimp only
      rw [← engine.simulatedBroker.quote_ne_none_iff ordered.orderType ordered.symbol
        ordered.exchange]
      unfold settlement
      cases quoted : engine.simulatedBroker.quote (engine.fillId opened.handled) intent row.bar with
      | none => exact iff_of_false counted (fun both => both.2 rfl)
      | some fill =>
          rw [untouched]
          exact iff_of_true
            (inStep.coherent.settle ordered (SimulatedBroker.quoted quoted)) ⟨rfl, nofun⟩
  | some riskEngine =>
      have empty : opened.portfolio.positions = OrderedDict.empty := by
        rw [untouched]
        exact inStep.untouched (by rw [guard]; nofun)
      have taken := BacktestPortfolio.getSnapshot_of_empty empty engine.simulatedBroker.py
      obtain ⟨next, handled⟩ := handleIntent_isOk row intent taken
      refine ⟨next, handled, iff_of_false ?_ nofun⟩
      obtain ⟨decision, riskState, checked, ⟨approved, _⟩ | ⟨refusal, _, _, rfl⟩⟩ :=
        handleIntent_cases handled
      · -- A market order of a symbol without a position has no price.
        obtain ⟨snapshot, taken', rfl, _⟩ := runRiskCheck_eq_ok guard checked
        rw [taken] at taken'
        cases taken'
        have unpriced : RiskEngine.estimatePrice intent emptySnapshot = none := by
          unfold RiskEngine.estimatePrice
          rw [ordered.price, ordered.triggerPrice]
          rfl
        exact absurd unpriced (RiskEngine.priced_of_approved approved)
      · exact counted

section Plays

variable [Field K] [LinearOrder K] [FloorRing K] {config : Config K} {float : ℚ → K}
  (plays : engine.strategy = config.strategy κ float)
include plays

theorem round {session : Session (States K)} (inStep : engine.InStep session) (row : FeedRow) :
    engine.Round row session (engine.loop.stepTrace row session)
      (engine.loop.step row session) := by
  have enter : engine.loop.enter row session = engine.onBar row session := rfl
  unfold RoundLoop.stepTrace RoundLoop.step
  rw [enter]
  cases entered : engine.onBar row session with
  | error raised => exact Round.failed raised
  | ok answer =>
      obtain ⟨orders, opened⟩ := answer
      obtain ⟨strategyState, answered, opened_eq⟩ := onBar_eq_ok entered
      have counts : opened.strategyState = strategyState := by rw [opened_eq]
      have untouched : opened.portfolio = session.portfolio := by rw [opened_eq]
      rw [plays, ← counts] at answered
      rcases Config.respond_cases answered with ⟨rfl, same⟩ | ⟨intent, rfl, ordered⟩
      · refine Round.quiet opened ?_ untouched
        rw [untouched]
        exact inStep.coherent.of_same same
      · obtain ⟨next, handled, outcome⟩ := handleIntent_ordered inStep untouched ordered
        have item : engine.loop.item row intent opened = .ok next := handled
        dsimp only
        unfold RoundLoop.itemsTrace RoundLoop.items
        rw [item]
        exact Round.ordered opened intent next outcome

theorem agree_of_inStep {session : Session (States K)} (inStep : engine.InStep session)
    (row : FeedRow) :
    (∀ event ∈ engine.loop.stepTrace row session, CoherentAfter event) ↔
      ∀ event ∈ engine.loop.stepTrace row session, engine.Unimpeded event := by
  have shape := round plays inStep row
  generalize engine.loop.stepTrace row session = trace at shape ⊢
  generalize engine.loop.step row session = result at shape
  have entered : CoherentAfter (.entered row session) := fun _symbol => trivial
  cases shape with
  | failed raised => simp [entered, Unimpeded]
  | quiet opened coherent untouched =>
      have closed := (coherentAfter_left_iff row opened).mpr coherent
      simp [entered, closed, Unimpeded]
  | ordered opened intent next outcome =>
      have during : CoherentAfter (.handled row intent opened) := fun _symbol => trivial
      have closed := (coherentAfter_left_iff row next).trans outcome
      simp only [List.forall_mem_cons, entered, during, closed, true_and]
      simp [Unimpeded]

theorem InStep.step {session session' : Session (States K)} (inStep : engine.InStep session)
    (row : FeedRow)
    (unimpeded : ∀ event ∈ engine.loop.stepTrace row session, engine.Unimpeded event)
    (stepped : engine.loop.step row session = .ok session') : engine.InStep session' := by
  have shape := round plays inStep row
  rw [stepped] at shape
  generalize engine.loop.stepTrace row session = trace at shape unimpeded
  cases shape with
  | quiet opened coherent untouched =>
      refine ⟨(coherent_markToMarket_iff _ _ _ _).mpr coherent, fun guarded => ?_⟩
      have empty := inStep.untouched guarded
      change opened.portfolio.positions.mapValues _ = _
      rw [untouched, empty]
      rfl
  | ordered opened intent next outcome =>
      have clear := unimpeded (.handled row intent opened)
        (List.mem_cons_of_mem _ List.mem_cons_self)
      exact ⟨(coherent_markToMarket_iff _ _ _ _).mpr (outcome.mpr clear),
        fun guarded => absurd clear.1 guarded⟩

theorem inStep_start {initialCash : ℚ} {product : ProductType}
    (fresh : new initialCash product = .ok engine.portfolio)
    (flat : engine.strategyState = OrderedDict.empty) {session : Session (States K)}
    (started : engine.start = .ok session) : engine.InStep session := by
  obtain ⟨strategyState, begun, rfl⟩ := start_eq_ok started
  rw [plays, flat] at begun
  have empty : engine.portfolio.positions = OrderedDict.empty := (new_eq_ok fresh).2.1
  have nothing : ∀ symbol, engine.portfolio.heldQuantity symbol = 0 := by
    intro symbol
    unfold BacktestPortfolio.heldQuantity
    rw [empty]
    rfl
  cases begun
  refine ⟨?_, fun _guarded => empty⟩
  intro symbol
  exact (coherentAt_iff _ _ _).mpr ⟨nothing symbol, fun isOpen => absurd rfl isOpen⟩

/-- From a fresh strategy and a fresh portfolio, strategy and portfolio are coherent after every
bar exactly when every order of the strategy is unimpeded. -/
theorem coherent_iff {initialCash : ℚ} {product : ProductType}
    (fresh : new initialCash product = .ok engine.portfolio)
    (flat : engine.strategyState = OrderedDict.empty) (candles : List Domain.Bar) :
    (∀ event ∈ engine.traceRows (iterBars candles), CoherentAfter event) ↔
      ∀ event ∈ engine.traceRows (iterBars candles), engine.Unimpeded event := by
  unfold traceRows
  cases started : engine.start with
  | error raised => exact iff_of_true (List.forall_mem_nil _) (List.forall_mem_nil _)
  | ok session =>
      have initial := inStep_start plays fresh flat started
      refine forall_trace_iff ?_ ?_ (iterBars candles) initial
      · intro row session inStep
        exact agree_of_inStep plays inStep row
      · intro row session session' inStep unimpeded stepped
        exact inStep.step plays row unimpeded stepped

end Plays

/-! ### An entry and an exit -/

def pullbackConfig : Config ℚ :=
  { trendMaPeriod := 3
    pullbackMaPeriod := 1
    rsiPeriod := 2
    rsiOversold := 100
    stopLossPct := 2
    targetPct := 6
    capital_pos := Nat.succ_pos 99999
    pullback_lt_trend := Nat.one_lt_succ_succ 1
    pullback_pos := Nat.one_pos
    rsi_pos := Nat.two_pos }

def pullbackEngine (riskEngine : Option RiskEngine) : BacktestEngine (States ℚ) Unit :=
  { strategy := pullbackConfig.strategy Unit id
    strategyState := OrderedDict.empty
    portfolio := turningStart
    simulatedBroker := sampleBroker
    initialCash := 1000
    strategyId := "ma_pullback"
    symbols := ["INFY"]
    parameters := ()
    riskEngine := riskEngine
    riskState := RiskState.new KillSwitch.new
    fillId := fun count => "fill_" ++ toString count
    riskDecisionId := fun count => "risk_" ++ toString count }

def pullbackBars : List Domain.Bar :=
  [flatBar "INFY" 0 100, flatBar "INFY" 86400000000 100, flatBar "INFY" 172800000000 130,
    flatBar "INFY" 259200000000 140]

/-- Without a risk engine the run buys on the third bar and sells on the fourth. -/
theorem pullback_coherent :
    (∀ event ∈ (pullbackEngine none).traceRows (iterBars pullbackBars), CoherentAfter event) ∧
      ((pullbackEngine none).run pullbackBars).toOption.map (fun report =>
        report.fills.map TradeFill.side) = some [.buy, .sell] := by
  have plays : (pullbackEngine none).strategy = pullbackConfig.strategy Unit id := rfl
  have fresh : new 1000 .mis = .ok (pullbackEngine none).portfolio := if_neg (by norm_num)
  have coherent := (coherent_iff plays fresh rfl pullbackBars).mpr (by decide +kernel)
  exact ⟨coherent, by decide +kernel⟩

/-- The first market order has no price, so a risk engine with default limits rejects it. -/
theorem pullback_not_coherent :
    ¬ ∀ event ∈ (pullbackEngine (some (RiskEngine.ascii RiskLimits.standard))).traceRows
        (iterBars pullbackBars),
      CoherentAfter event := by
  intro coherent
  have seen := fun event member => coherent event member "INFY"
  revert seen
  decide +kernel

end BacktestEngine

end TradingEngine.Backtest
