/-
A backtest does not look ahead.

A run handles its rows in order and only ever adds to its logs, under the time of the row.  So
the run over the candles up to a cutoff is what the whole run had done by then, and the order
in which the candles are handed over does not matter.
-/

import TradingEngine.Backtest.Engine
import TradingEngine.General.Timeline

namespace TradingEngine.Backtest

open Domain Risk Strategies Timeline

/-! ### The order of the feed -/

theorem FeedRow.before_trans {first second third : FeedRow} (early : first.Before second)
    (late : second.Before third) : first.Before third := by
  rcases early with earlier | ⟨same, first_le⟩
  · rcases late with later | ⟨same', _⟩
    · exact Or.inl (lt_trans earlier later)
    · exact Or.inl (same' ▸ earlier)
  · rcases late with later | ⟨same', second_le⟩
    · exact Or.inl (same ▸ later)
    · exact Or.inr ⟨same.trans same', String.le_trans first_le second_le⟩

theorem FeedRow.before_total (left right : FeedRow) : left.Before right ∨ right.Before left := by
  unfold FeedRow.Before
  rcases lt_trichotomy left.bar.timestamp right.bar.timestamp with earlier | same | later
  · exact Or.inl (Or.inl earlier)
  · rcases String.le_total left.symbol right.symbol with ahead | behind
    · exact Or.inl (Or.inr ⟨same, ahead⟩)
    · exact Or.inr (Or.inr ⟨same.symm, behind⟩)
  · exact Or.inr (Or.inl later)

instance : IsTrans FeedRow FeedRow.Before :=
  ⟨fun _first _second _third => FeedRow.before_trans⟩

instance : Std.Total FeedRow.Before :=
  ⟨FeedRow.before_total⟩

theorem FeedRow.Before.timestamp_le {earlier later : FeedRow} (before : earlier.Before later) :
    earlier.bar.timestamp ≤ later.bar.timestamp := by
  rcases before with less | ⟨same, _⟩
  · exact le_of_lt less
  · exact le_of_eq same

theorem iterBars_sorted (candles : List Domain.Bar) :
    (iterBars candles).Pairwise FeedRow.Before :=
  List.pairwise_insertionSort FeedRow.Before _

theorem iterBars_filter (kept : Domain.Bar → Bool) (candles : List Domain.Bar) :
    iterBars (candles.filter kept) = (iterBars candles).filter (fun row => kept row.bar) := by
  unfold iterBars sortRows
  rw [filter_insertionSort, List.filter_map]
  rfl

/-- A candle is found by its time and its symbol. -/
def Keyed (candles : List Domain.Bar) : Prop :=
  (candles.map (fun bar => (bar.timestamp, bar.symbol))).Nodup

theorem iterBars_eq_of_perm {candles others : List Domain.Bar} (same : candles.Perm others)
    (keyed : Keyed candles) : iterBars candles = iterBars others := by
  refine insertionSort_eq_of_perm (same.map FeedRow.ofBar) ?_
  intro left inLeft right inRight before after
  obtain ⟨bar, member, rfl⟩ := List.mem_map.mp inLeft
  obtain ⟨other, otherMember, rfl⟩ := List.mem_map.mp inRight
  have time : bar.timestamp = other.timestamp :=
    le_antisymm before.timestamp_le after.timestamp_le
  have symbol : bar.symbol = other.symbol := by
    rcases before with less | ⟨_, ahead⟩
    · exact absurd time (ne_of_lt less)
    · rcases after with less | ⟨_, behind⟩
      · exact absurd time.symm (ne_of_lt less)
      · exact String.le_antisymm ahead behind
  exact congrArg FeedRow.ofBar
    (List.inj_on_of_nodup_map keyed member otherMember (Prod.ext time symbol))

/-! ### The time of a decision -/

/-- A decision, if there is one, carries this time. -/
def Stamped (ts : Datetime) (answer : Option RiskDecision) : Prop :=
  ∀ decision, answer = some decision → decision.timestamp = ts

section Stamped

variable {ts : Datetime} {first second : Option RiskDecision}

theorem stamped_none (ts : Datetime) : Stamped ts none :=
  fun _decision absent => absurd absent.symm (Option.some_ne_none _)

theorem stamped_reject (riskDecisionId : String) {reasonCode : RiskReasonCode}
    (refusal : reasonCode ≠ .approved) (reasonMessage : String)
    (checked : List (String × String)) (ts : Datetime) :
    Stamped ts (some (reject riskDecisionId reasonCode refusal reasonMessage checked ts)) := by
  intro decision same
  cases same
  rfl

theorem Stamped.ite {condition : Prop} [Decidable condition] (yes : Stamped ts first)
    (no : Stamped ts second) : Stamped ts (if condition then first else second) := by
  split_ifs
  · exact yes
  · exact no

theorem Stamped.orElse (left : Stamped ts first) (right : Stamped ts second) :
    Stamped ts (first <|> second) := by
  cases first with
  | none => exact right
  | some earlier => exact left

end Stamped

section Checks

variable (riskEngine : RiskEngine) (riskDecisionId : String) (intent : OrderIntent)
  (snapshot : PortfolioSnapshot) (ts : Datetime) (state : RiskState)

open RiskEngine

theorem stamped_beforeTradesPerDay :
    Stamped ts (riskEngine.beforeTradesPerDay riskDecisionId intent snapshot ts state) := by
  have killSwitch : Stamped ts (checkKillSwitch riskDecisionId ts state) :=
    (stamped_reject _ _ _ _ _).ite (stamped_none ts)
  have symbol : Stamped ts (riskEngine.checkSymbol riskDecisionId intent ts) := by
    unfold checkSymbol
    split
    · exact stamped_none ts
    · exact (stamped_none ts).ite (stamped_reject _ _ _ _ _)
  have product : Stamped ts (riskEngine.checkProduct riskDecisionId intent ts) := by
    unfold checkProduct
    split
    · exact stamped_none ts
    · exact (stamped_none ts).ite (stamped_reject _ _ _ _ _)
  have orderType : Stamped ts (riskEngine.checkOrderType riskDecisionId intent ts) := by
    unfold checkOrderType
    split
    · exact stamped_none ts
    · exact (stamped_none ts).ite (stamped_reject _ _ _ _ _)
  have orderValue : Stamped ts (riskEngine.checkOrderValue riskDecisionId intent snapshot ts) := by
    unfold checkOrderValue
    split
    · exact stamped_reject _ _ _ _ _
    · exact (stamped_reject _ _ _ _ _).ite (stamped_none ts)
  have positionCount :
      Stamped ts (riskEngine.checkPositionCount riskDecisionId intent snapshot ts) := by
    unfold checkPositionCount
    split
    · exact stamped_none ts
    · exact (stamped_reject _ _ _ _ _).ite (stamped_none ts)
  have dailyLoss : Stamped ts (riskEngine.checkDailyLoss riskDecisionId snapshot ts) :=
    (stamped_reject _ _ _ _ _).ite (stamped_none ts)
  have beforeDailyLoss : Stamped ts
      (riskEngine.beforeDailyLoss riskDecisionId intent snapshot ts state) :=
    killSwitch.orElse (symbol.orElse (product.orElse (orderType.orElse
      (orderValue.orElse positionCount))))
  exact beforeDailyLoss.orElse dailyLoss

theorem timestamp_checkOrderIntent :
    (riskEngine.checkOrderIntent riskDecisionId intent snapshot ts state).1.timestamp = ts := by
  have trades : Stamped ts (riskEngine.checkTradesPerDay riskDecisionId ts state) :=
    (stamped_reject _ _ _ _ _).ite (stamped_none ts)
  have checked :=
    (stamped_beforeTradesPerDay riskEngine riskDecisionId intent snapshot ts state).orElse trades
  have perSecond : ∀ orderTimestamps,
      Stamped ts (riskEngine.checkOrdersPerSecond riskDecisionId ts orderTimestamps) :=
    fun orderTimestamps => (stamped_reject _ _ _ _ _).ite (stamped_none ts)
  unfold checkOrderIntent
  split
  · exact checked _ ‹_›
  · dsimp only
    split
    · exact perSecond _ _ ‹_›
    · rfl

end Checks

/-! ### Logs -/

/-- What a run logs between two states is stamped with times of this kind. -/
structure Logs {σ : Type} (At : Datetime → Prop) (earlier later : Session σ) : Prop where
  fills : Adds (fun fill => At fill.timestamp) earlier.fills later.fills
  rejected : Adds (fun decision => At decision.timestamp) earlier.rejectedDecisions
    later.rejectedDecisions
  equityCurve : Adds (fun point => At point.1) earlier.portfolio.equityCurve
    later.portfolio.equityCurve

theorem Logs.refl {σ : Type} (At : Datetime → Prop) (session : Session σ) :
    Logs At session session where
  fills := Adds.refl _ _
  rejected := Adds.refl _ _
  equityCurve := Adds.refl _ _

theorem Logs.trans {σ : Type} {At : Datetime → Prop} {first second third : Session σ}
    (early : Logs At first second) (late : Logs At second third) : Logs At first third where
  fills := early.fills.trans late.fills
  rejected := early.rejected.trans late.rejected
  equityCurve := early.equityCurve.trans late.equityCurve

theorem Logs.imp {σ : Type} {At Other : Datetime → Prop} {earlier later : Session σ}
    (logs : Logs At earlier later) (implies : ∀ ts, At ts → Other ts) :
    Logs Other earlier later where
  fills := logs.fills.imp (fun _fill => implies _)
  rejected := logs.rejected.imp (fun _decision => implies _)
  equityCurve := logs.equityCurve.imp (fun _point => implies _)

theorem equityCurve_settle (portfolio : BacktestPortfolio) (quoted : Option TradeFill) :
    (portfolio.settle quoted).2.equityCurve = portfolio.equityCurve := by
  unfold BacktestPortfolio.settle
  cases quoted with
  | none => rfl
  | some fill =>
      dsimp only
      split_ifs with oversells
      · rfl
      · rw [BacktestPortfolio.afterFill, applyFill_of_accepted oversells]
        unfold BacktestPortfolio.book BacktestPortfolio.setDefault
        cases portfolio.positions.get? fill.symbol <;> rfl

theorem settle_fst_subset {portfolio : BacktestPortfolio} {quoted : Option TradeFill}
    {fill : TradeFill} (settled : fill ∈ (portfolio.settle quoted).1.toList) :
    quoted = some fill := by
  unfold BacktestPortfolio.settle at settled
  cases quoted with
  | none => cases settled
  | some offered =>
      dsimp only at settled
      split_ifs at settled with oversells
      · cases settled
      · rw [List.mem_singleton.mp settled]

namespace BacktestEngine

variable {σ κ : Type} {engine : BacktestEngine σ κ}

theorem logs_step {row : FeedRow} {session session' : Session σ}
    (stepped : engine.loop.step row session = .ok session') :
    Logs (fun ts => ts = row.bar.timestamp) session session' := by
  refine RoundLoop.step_rel (Logs.refl _) (fun _ _ _ => Logs.trans) ?_ ?_ ?_ stepped
  · intro session handed session' entered
    obtain ⟨strategyState, _, rfl⟩ := onBar_eq_ok entered
    exact ⟨Adds.refl _ _, Adds.refl _ _, Adds.refl _ _⟩
  · intro intent session session' handled
    obtain ⟨decision, riskState, checked, ⟨_, rfl⟩ | ⟨refusal, refused, _, rfl⟩⟩ :=
      handleIntent_cases handled
    · refine ⟨adds_append ?_ _, Adds.refl _ _, ?_⟩
      · intro fill settled
        exact (SimulatedBroker.quoted (settle_fst_subset settled)).timestamp
      · rw [show ((engine.settlement row intent session).2).equityCurve = _ from
          equityCurve_settle _ _]
        exact Adds.refl _ _
    · refine ⟨Adds.refl _ _, adds_append ?_ _, Adds.refl _ _⟩
      intro entry member
      rw [List.mem_singleton.mp member]
      cases guarded : engine.riskEngine with
      | none =>
          unfold runRiskCheck at checked
          rw [guarded] at checked
          cases checked
          cases refused
      | some riskEngine =>
          obtain ⟨snapshot, _, decided, _⟩ := runRiskCheck_eq_ok guarded checked
          rw [refused, Option.some_inj] at decided
          rw [decided]
          exact timestamp_checkOrderIntent _ _ _ _ _ _
  · intro session
    refine ⟨Adds.refl _ _, Adds.refl _ _, adds_append ?_ _⟩
    intro point member
    rw [List.mem_singleton.mp member]

theorem logs_run {At : Datetime → Prop} {rows : List FeedRow} {session final : Session σ}
    (times : ∀ row ∈ rows, At row.bar.timestamp)
    (ran : engine.loop.run rows session = .ok final) : Logs At session final := by
  refine RoundLoop.run_rel (Logs.refl At) (fun _ _ _ => Logs.trans) ?_ ran
  intro row member session session' stepped
  exact (logs_step stepped).imp (fun ts same => same ▸ times row member)

/-! ### Runs -/

theorem run_eq_ok_iff {candles : List Domain.Bar} {report : BacktestReport κ} :
    engine.run candles = .ok report ↔
      ∃ session final, engine.start = .ok session ∧
        engine.loop.run (iterBars candles) session = .ok final ∧ engine.report final = report := by
  unfold run runRows
  cases engine.start with
  | error raised =>
      constructor
      · intro ran
        cases ran
      · intro ⟨_, _, started, _⟩
        cases started
  | ok session =>
      dsimp only
      cases done : engine.loop.run (iterBars candles) session with
      | error raised =>
          constructor
          · intro ran
            cases ran
          · intro ⟨_, _, started, ran, _⟩
            cases started
            rw [done] at ran
            cases ran
      | ok final =>
          constructor
          · intro ran
            exact ⟨session, final, rfl, done, Except.ok.inj ran⟩
          · intro ⟨_, _, started, ran, same⟩
            cases started
            rw [done] at ran
            cases ran
            exact congrArg Except.ok same

theorem run_eq_of_perm (engine : BacktestEngine σ κ) {candles others : List Domain.Bar}
    (same : candles.Perm others) (keyed : Keyed candles) :
    engine.run candles = engine.run others := by
  unfold run
  rw [iterBars_eq_of_perm same keyed]

/-- A backtest over the candles up to a cutoff, in any order, returns the fills, the rejections
and the equity curve that the whole backtest has up to there. -/
theorem run_upTo {candles : List Domain.Bar} {report : BacktestReport κ}
    (ran : engine.run candles = .ok report) (fresh : engine.portfolio.equityCurve = [])
    (cutoff : Datetime) {others : List Domain.Bar}
    (same : (candles.filter (fun bar => bar.timestamp ≤ cutoff)).Perm others)
    (keyed : Keyed (candles.filter (fun bar => bar.timestamp ≤ cutoff))) :
    ∃ earlier, engine.run others = .ok earlier ∧
      earlier.fills = report.fills.filter (fun fill => fill.timestamp ≤ cutoff) ∧
      earlier.rejectedRiskDecisions =
        report.rejectedRiskDecisions.filter (fun decision => decision.timestamp ≤ cutoff) ∧
      earlier.equityCurve = report.equityCurve.filter (fun point => point.1 ≤ cutoff) := by
  obtain ⟨session, final, started, done, rfl⟩ := run_eq_ok_iff.mp ran
  have split : iterBars candles =
      (iterBars candles).filter (fun row => decide (row.bar.timestamp ≤ cutoff)) ++
        (iterBars candles).filter (fun row => !decide (row.bar.timestamp ≤ cutoff)) := by
    refine eq_filter_append_filter ((iterBars_sorted candles).imp ?_)
    intro earlier later before late
    exact decide_eq_true (before.timestamp_le.trans (of_decide_eq_true late))
  rw [split] at done
  obtain ⟨middle, early, late⟩ := RoundLoop.run_append_eq_ok_iff.mp done
  have before : Logs (fun ts => decide (ts ≤ cutoff) = true) session middle :=
    logs_run (fun row member => (List.mem_filter.mp member).2) early
  have after : Logs (fun ts => decide (ts ≤ cutoff) = false) middle final := by
    refine logs_run (fun row member => ?_) late
    have kept := (List.mem_filter.mp member).2
    rw [Bool.not_eq_true'] at kept
    exact kept
  obtain ⟨strategyState, _, rfl⟩ := start_eq_ok started
  have noCurve := before.equityCurve
  rw [show BacktestPortfolio.equityCurve _ = [] from fresh] at noCurve
  refine ⟨engine.report middle, ?_, ?_, ?_, ?_⟩
  · rw [← engine.run_eq_of_perm same keyed]
    refine run_eq_ok_iff.mpr ⟨_, middle, started, ?_, rfl⟩
    rw [iterBars_filter]
    exact early
  · exact (before.fills.filter_eq after.fills).symm
  · exact (before.rejected.filter_eq after.rejected).symm
  · exact (noCurve.filter_eq after.equityCurve).symm

end BacktestEngine

/-! ### A purchase at the cutoff -/

def twoMinutes : List Domain.Bar :=
  [flatBar "INFY" 60000000 102, flatBar "INFY" 0 100, flatBar "TCS" 0 200]

def buyThenSell : BacktestEngine (List (List OrderIntent)) Unit :=
  scriptedEngine none [[marketOrder "INFY" .buy], [], [marketOrder "INFY" .sell]]

theorem buyThenSell_upTo :
    ∃ report earlier, buyThenSell.run twoMinutes = .ok report ∧
      buyThenSell.run [flatBar "TCS" 0 200, flatBar "INFY" 0 100] = .ok earlier ∧
      earlier.fills = report.fills.filter (fun fill => fill.timestamp ≤ 0) ∧
      report.fills.length = 2 ∧ earlier.fills.length = 1 := by
  have returned : (buyThenSell.run twoMinutes).toOption.map (fun report =>
      (report.fills.length, (report.fills.filter (fun fill => fill.timestamp ≤ 0)).length)) =
      some (2, 1) := by
    decide +kernel
  obtain ⟨report, found, counts⟩ := Option.map_eq_some_iff.mp returned
  obtain ⟨fills, early⟩ := Prod.mk.inj counts
  have ran := toOption_eq_some_iff.mp found
  have swapped : (twoMinutes.filter (fun bar => bar.timestamp ≤ 0)).Perm
      [flatBar "TCS" 0 200, flatBar "INFY" 0 100] := by
    decide +kernel
  have keyed : Keyed (twoMinutes.filter (fun bar => bar.timestamp ≤ 0)) := by
    unfold Keyed
    decide +kernel
  obtain ⟨earlier, reran, same, _⟩ := BacktestEngine.run_upTo ran rfl 0 swapped keyed
  exact ⟨report, earlier, ran, reran, same, fills, by rw [same]; exact early⟩

end TradingEngine.Backtest
