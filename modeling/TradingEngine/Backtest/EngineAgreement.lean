/-
Runs that differ in their identifiers only.

No part of an engine reads the identifier of a fill or of a decision, so two engines with
one setup agree on everything else, whatever supplies their identifiers come from.
-/

import TradingEngine.Backtest.Engine

namespace TradingEngine.Backtest

open Domain Risk RoundLoop Strategies

/-! ### Records without their identifiers -/

def anonymousFill (fill : TradeFill) : TradeFill :=
  { fill with fillId := "" }

def anonymousDecision (decision : RiskDecision) : RiskDecision :=
  { decision with riskDecisionId := "" }

def BacktestPortfolio.anonymous (portfolio : BacktestPortfolio) : BacktestPortfolio :=
  { portfolio with fills := portfolio.fills.map anonymousFill }

/-! ### The risk engine -/

section Checks

variable (engine : RiskEngine) (left right : String) (intent : OrderIntent)
  (snapshot : PortfolioSnapshot) (ts : Datetime) (state : RiskState)

theorem anonymous_beforeDailyLoss :
    (engine.beforeDailyLoss left intent snapshot ts state).map anonymousDecision =
      (engine.beforeDailyLoss right intent snapshot ts state).map anonymousDecision := by
  unfold RiskEngine.beforeDailyLoss
  simp only [Option.orElse_eq_orElse, Option.orElse_eq_or, Option.map_or]
  congr 1
  · unfold RiskEngine.checkKillSwitch
    split_ifs <;> rfl
  congr 1
  · unfold RiskEngine.checkSymbol
    cases engine.limits.allowedSymbols with
    | none => rfl
    | some allowed =>
        dsimp only
        split_ifs <;> rfl
  congr 1
  · unfold RiskEngine.checkProduct
    cases engine.limits.allowedProductTypes with
    | none => rfl
    | some allowed =>
        dsimp only
        split_ifs <;> rfl
  congr 1
  · unfold RiskEngine.checkOrderType
    cases engine.limits.allowedOrderTypes with
    | none => rfl
    | some allowed =>
        dsimp only
        split_ifs <;> rfl
  congr 1
  · unfold RiskEngine.checkOrderValue
    cases RiskEngine.estimatePrice intent snapshot with
    | none => rfl
    | some price =>
        dsimp only
        split_ifs <;> rfl
  · unfold RiskEngine.checkPositionCount
    cases intent.side with
    | sell => rfl
    | buy =>
        dsimp only
        split_ifs <;> rfl

theorem anonymous_beforeTradesPerDay :
    (engine.beforeTradesPerDay left intent snapshot ts state).map anonymousDecision =
      (engine.beforeTradesPerDay right intent snapshot ts state).map anonymousDecision := by
  unfold RiskEngine.beforeTradesPerDay
  simp only [Option.orElse_eq_orElse, Option.orElse_eq_or, Option.map_or]
  rw [anonymous_beforeDailyLoss engine left right]
  congr 1
  unfold RiskEngine.checkDailyLoss
  split_ifs <;> rfl

theorem anonymous_checkOrderIntent :
    anonymousDecision (engine.checkOrderIntent left intent snapshot ts state).1 =
        anonymousDecision (engine.checkOrderIntent right intent snapshot ts state).1 ∧
      (engine.checkOrderIntent left intent snapshot ts state).2 =
        (engine.checkOrderIntent right intent snapshot ts state).2 := by
  have earlier : (engine.beforeTradesPerDay left intent snapshot ts state <|>
        engine.checkTradesPerDay left ts state).map anonymousDecision =
      (engine.beforeTradesPerDay right intent snapshot ts state <|>
        engine.checkTradesPerDay right ts state).map anonymousDecision := by
    simp only [Option.orElse_eq_orElse, Option.orElse_eq_or, Option.map_or]
    rw [anonymous_beforeTradesPerDay engine left right]
    congr 1
    unfold RiskEngine.checkTradesPerDay
    split_ifs <;> rfl
  unfold RiskEngine.checkOrderIntent
  generalize (engine.beforeTradesPerDay left intent snapshot ts state <|>
    engine.checkTradesPerDay left ts state) = mine at earlier ⊢
  generalize (engine.beforeTradesPerDay right intent snapshot ts state <|>
    engine.checkTradesPerDay right ts state) = theirs at earlier ⊢
  cases mine with
  | some decision =>
      cases theirs with
      | none => cases earlier
      | some other => exact ⟨Option.some.inj earlier, rfl⟩
  | none =>
      cases theirs with
      | some other => cases earlier
      | none =>
          unfold RiskEngine.checkOrdersPerSecond
          dsimp only
          split_ifs <;> exact ⟨rfl, rfl⟩

end Checks

/-! ### The broker and the portfolio -/

namespace SimulatedBroker

variable (broker : SimulatedBroker) (left right : String) (intent : OrderIntent)
  (bar : Domain.Bar)

theorem anonymous_quote :
    (broker.quote left intent bar).map anonymousFill =
      (broker.quote right intent bar).map anonymousFill := by
  have made : ∀ price, (broker.fillAt left intent bar price).toOption.map anonymousFill =
      (broker.fillAt right intent bar price).toOption.map anonymousFill := by
    intro price
    unfold fillAt
    cases broker.costModel.calculateFees broker.decimalText intent.side intent.quantity price with
    | error raised => rfl
    | ok fees =>
        cases Exchange.ofText intent.exchange with
        | none => rfl
        | some exchange =>
            unfold makeFill
            dsimp only
            split_ifs <;> rfl
  unfold quote
  simp only [Option.map_bind]
  apply Option.bind_congr
  intro reference _found
  rw [Function.comp_apply, Function.comp_apply, Option.map_bind, Option.map_bind]
  apply Option.bind_congr
  intro price _slipped
  exact made price

end SimulatedBroker

namespace BacktestPortfolio

variable {left right : BacktestPortfolio}

theorem anonymous_setDefault (portfolio : BacktestPortfolio) (fill : TradeFill) :
    (portfolio.setDefault fill).anonymous =
      portfolio.anonymous.setDefault (anonymousFill fill) := by
  unfold setDefault anonymous anonymousFill
  dsimp only
  cases portfolio.positions.get? fill.symbol <;> rfl

theorem anonymous_settle (portfolio : BacktestPortfolio) (quoted : Option TradeFill) :
    ((portfolio.settle quoted).1.map anonymousFill, (portfolio.settle quoted).2.anonymous) =
      portfolio.anonymous.settle (quoted.map anonymousFill) := by
  cases quoted with
  | none => rfl
  | some fill =>
      have position : portfolio.anonymous.positionFor (anonymousFill fill) =
          portfolio.positionFor fill := rfl
      have same : Oversells (portfolio.anonymous.positionFor (anonymousFill fill))
          (anonymousFill fill) ↔ Oversells (portfolio.positionFor fill) fill := Iff.rfl
      unfold settle
      dsimp only [Option.map_some]
      by_cases oversells : Oversells (portfolio.positionFor fill) fill
      · rw [if_pos oversells, if_pos (same.mpr oversells)]
        rfl
      · rw [if_neg oversells, if_neg (fun sold => oversells (same.mp sold))]
        unfold afterFill
        rw [applyFill_of_accepted oversells,
          applyFill_of_accepted (fun sold => oversells (same.mp sold)), ← anonymous_setDefault]
        unfold book anonymous
        simp only [List.map_append]
        rfl

theorem settle_agree (same : left.anonymous = right.anonymous) {mine theirs : Option TradeFill}
    (quoted : mine.map anonymousFill = theirs.map anonymousFill) :
    (left.settle mine).1.map anonymousFill = (right.settle theirs).1.map anonymousFill ∧
      (left.settle mine).2.anonymous = (right.settle theirs).2.anonymous := by
  have equal : left.anonymous.settle (mine.map anonymousFill) =
      right.anonymous.settle (theirs.map anonymousFill) := by
    rw [same, quoted]
  rw [← anonymous_settle, ← anonymous_settle] at equal
  exact ⟨congrArg Prod.fst equal, congrArg Prod.snd equal⟩

theorem getSnapshot_agree (same : left.anonymous = right.anonymous) (py : Python) :
    left.getSnapshot py = right.getSnapshot py := by
  have equal := congrArg (fun portfolio => getSnapshot portfolio py) same
  exact equal

theorem markToMarket_agree (same : left.anonymous = right.anonymous) (timestamp : Datetime)
    (latestPrices : OrderedDict String ℚ) :
    (left.markToMarket timestamp latestPrices).anonymous =
      (right.markToMarket timestamp latestPrices).anonymous := by
  have equal := congrArg (fun portfolio => markToMarket portfolio timestamp latestPrices) same
  exact equal

end BacktestPortfolio

/-! ### Two engines -/

/-- What a run is judged by, without identifiers. -/
structure Outcome where
  fills : List TradeFill
  rejectedDecisions : List RiskDecision
  equityCurve : List (Datetime × ℚ)

def BacktestReport.outcome {κ : Type} (report : BacktestReport κ) : Outcome :=
  { fills := report.fills.map anonymousFill
    rejectedDecisions := report.rejectedRiskDecisions.map anonymousDecision
    equityCurve := report.equityCurve }

def Session.outcome {σ : Type} (session : Session σ) : Outcome :=
  { fills := session.fills.map anonymousFill
    rejectedDecisions := session.rejectedDecisions.map anonymousDecision
    equityCurve := session.portfolio.equityCurve }

/-- Two sessions that differ in identifiers only. -/
structure SameButIds {σ : Type} (left right : Session σ) : Prop where
  strategyState : left.strategyState = right.strategyState
  portfolio : left.portfolio.anonymous = right.portfolio.anonymous
  riskState : left.riskState = right.riskState
  fills : left.fills.map anonymousFill = right.fills.map anonymousFill
  rejectedDecisions : left.rejectedDecisions.map anonymousDecision =
    right.rejectedDecisions.map anonymousDecision
  latestPrices : left.latestPrices = right.latestPrices

theorem SameButIds.outcome {σ : Type} {left right : Session σ} (alike : SameButIds left right) :
    left.outcome = right.outcome := by
  have curve : left.portfolio.equityCurve = right.portfolio.equityCurve :=
    congrArg (fun portfolio => portfolio.equityCurve) alike.portfolio
  unfold Session.outcome
  rw [alike.fills, alike.rejectedDecisions, curve]

namespace BacktestEngine

variable {σ κ : Type}

theorem run_outcome (engine : BacktestEngine σ κ) (candles : List Domain.Bar) :
    (engine.run candles).map BacktestReport.outcome =
      (engine.runRows (iterBars candles)).map Session.outcome := by
  unfold run
  cases engine.runRows (iterBars candles) <;> rfl

/-- Two engines with one setup, up to the mode and configuration of the context. -/
structure SameSetup (left right : BacktestEngine σ κ) : Prop where
  onStart : ∀ state, left.strategy.onStart left.context state =
    right.strategy.onStart right.context state
  onBar : ∀ bar state, left.strategy.onBar bar left.context state =
    right.strategy.onBar bar right.context state
  strategyState : left.strategyState = right.strategyState
  portfolio : left.portfolio = right.portfolio
  simulatedBroker : left.simulatedBroker = right.simulatedBroker
  riskEngine : left.riskEngine = right.riskEngine
  riskState : left.riskState = right.riskState

variable {left right : BacktestEngine σ κ} (same : SameSetup left right)
include same

theorem SameSetup.runRiskCheck {mine theirs : Session σ} (alike : SameButIds mine theirs)
    (intent : OrderIntent) (ts : Datetime) :
    Agree (fun mine theirs => mine.1.map anonymousDecision = theirs.1.map anonymousDecision ∧
        mine.2 = theirs.2)
      (left.runRiskCheck intent ts mine) (right.runRiskCheck intent ts theirs) := by
  unfold BacktestEngine.runRiskCheck
  rw [same.riskEngine, same.simulatedBroker,
    BacktestPortfolio.getSnapshot_agree alike.portfolio, alike.riskState]
  cases right.riskEngine with
  | none => exact ⟨rfl, rfl⟩
  | some riskEngine =>
      dsimp only
      cases theirs.portfolio.getSnapshot right.simulatedBroker.py with
      | error raised => exact rfl
      | ok snapshot =>
          obtain ⟨decision, state⟩ := anonymous_checkOrderIntent riskEngine
            (left.riskDecisionId mine.handled) (right.riskDecisionId theirs.handled) intent snapshot
            ts theirs.riskState
          exact ⟨congrArg some decision, state⟩

theorem SameSetup.execute {mine theirs : Session σ} (alike : SameButIds mine theirs)
    (row : FeedRow) (intent : OrderIntent) :
    SameButIds (left.execute row intent mine) (right.execute row intent theirs) := by
  rw [execute_eq, execute_eq]
  unfold settlement
  obtain ⟨fill, portfolio⟩ := BacktestPortfolio.settle_agree alike.portfolio
    (right.simulatedBroker.anonymous_quote (left.fillId mine.handled)
      (right.fillId theirs.handled) intent row.bar)
  rw [same.simulatedBroker]
  exact
    { strategyState := alike.strategyState
      portfolio := portfolio
      riskState := alike.riskState
      fills := by
        simp only [List.map_append, ← Option.toList_map]
        rw [alike.fills, fill]
      rejectedDecisions := alike.rejectedDecisions
      latestPrices := alike.latestPrices }

theorem SameSetup.handleIntent {mine theirs : Session σ} (alike : SameButIds mine theirs)
    (row : FeedRow) (intent : OrderIntent) :
    Agree SameButIds (left.handleIntent row intent mine)
      (right.handleIntent row intent theirs) := by
  unfold BacktestEngine.handleIntent
  rcases (same.runRiskCheck alike intent row.bar.timestamp).cases with
    ⟨raised, failed, failed'⟩ | ⟨⟨decision, state⟩, ⟨decision', state'⟩, passed, passed', agreed⟩
  · rw [failed, failed']
    exact rfl
  · rw [passed, passed']
    obtain ⟨anonymous, sameState⟩ := agreed
    dsimp only at anonymous sameState ⊢
    have executed := same.execute alike row intent
    cases decision with
    | none =>
        cases decision' with
        | some other => cases anonymous
        | none => exact { executed with riskState := sameState }
    | some verdict =>
        cases decision' with
        | none => cases anonymous
        | some verdict' =>
            have equal : anonymousDecision verdict = anonymousDecision verdict' :=
              Option.some.inj anonymous
            have approved : verdict.approved = verdict'.approved :=
              congrArg (fun decision => decision.approved) equal
            dsimp only
            rw [approved]
            cases verdict'.approved with
            | true => exact { executed with riskState := sameState }
            | false =>
                rw [if_neg Bool.false_ne_true, if_neg Bool.false_ne_true]
                exact
                  { alike with
                    riskState := sameState
                    rejectedDecisions := by
                      simp only [List.map_append, List.map_cons, List.map_nil]
                      rw [alike.rejectedDecisions, equal] }

theorem SameSetup.simulates :
    Simulates left.loop right.loop (fun _past _event => True)
      (fun _past mine theirs => SameButIds mine theirs) where
  enter _past row mine theirs _allowed alike := by
    change Agree _ (left.onBar row mine) (right.onBar row theirs)
    unfold BacktestEngine.onBar
    rw [same.onBar, alike.strategyState]
    cases right.strategy.onBar row.bar right.context theirs.strategyState with
    | error raised => exact rfl
    | ok answer =>
        refine ⟨rfl, ?_⟩
        exact
          { alike with
            strategyState := rfl
            latestPrices := by
              dsimp only
              rw [alike.latestPrices] }
  item _past row intent _mine _theirs _allowed alike := same.handleIntent alike row intent
  leave _past row mine theirs alike :=
    { alike with
      portfolio := by
        change (mine.portfolio.markToMarket _ _).anonymous =
          (theirs.portfolio.markToMarket _ _).anonymous
        rw [alike.latestPrices]
        exact BacktestPortfolio.markToMarket_agree alike.portfolio _ _ }

theorem SameSetup.start : Agree SameButIds left.start right.start := by
  unfold BacktestEngine.start
  rw [same.onStart, same.strategyState]
  cases right.strategy.onStart right.context right.strategyState with
  | error raised => exact rfl
  | ok state =>
      exact
        { strategyState := rfl
          portfolio := congrArg BacktestPortfolio.anonymous same.portfolio
          riskState := same.riskState
          fills := rfl
          rejectedDecisions := rfl
          latestPrices := rfl }

theorem SameSetup.runRows (rows : List FeedRow) :
    Agree SameButIds (left.runRows rows) (right.runRows rows) := by
  unfold BacktestEngine.runRows
  rcases same.start.cases with ⟨raised, failed, failed'⟩ | ⟨mine, theirs, begun, begun', alike⟩
  · rw [failed, failed']
    exact rfl
  · rw [begun, begun']
    exact same.simulates.agree rows alike

end BacktestEngine

end TradingEngine.Backtest
