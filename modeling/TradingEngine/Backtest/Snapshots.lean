/-
Snapshots over whole backtest runs.

The records of a snapshot reject a blank symbol and a negative price.  Positions come from
fills and are marked at closes, so over bars that never close below zero every snapshot of
a run can be taken.
-/

import TradingEngine.Backtest.Engine

namespace TradingEngine.Backtest

open Domain RoundLoop
open BacktestPortfolio (new)

/-- A position that `to_position` accepts. -/
structure Presentable (py : Python) (pos : PositionState) : Prop where
  named : py.isBlank pos.symbol = false
  average_nonneg : 0 ≤ pos.averagePrice
  last_nonneg : ∀ price ∈ pos.lastPrice, 0 ≤ price

theorem averagePrice_nonneg {pos : PositionState} (nonneg : 0 ≤ pos.averagePrice)
    (fill : TradeFill) : 0 ≤ (afterPosition pos fill).averagePrice := by
  have price := fill.price_pos.le
  have shares := (quantity_cast_pos fill).le
  obtain ⟨_, _, after⟩ | ⟨_, long, after⟩ | ⟨_, _, after⟩ | ⟨_, short, after⟩ :=
    afterPosition_cases pos fill
  · rw [after]
    unfold coverShort
    dsimp only
    split_ifs
    · exact price
    · exact le_refl 0
    · exact nonneg
  · have held : (0 : ℚ) ≤ pos.quantity := Int.cast_nonneg long
    rw [after]
    unfold addLong grossValue
    dsimp only
    push_cast
    positivity
  · rw [after]
    unfold reduceLong
    dsimp only
    split_ifs
    · exact le_refl 0
    · exact nonneg
  · have owed : (0 : ℚ) ≤ ((-pos.quantity : ℤ) : ℚ) := Int.cast_nonneg (by omega)
    rw [after]
    unfold addShort grossValue
    dsimp only
    positivity

section Presentable

variable {py : Python} {pos : PositionState}

theorem Presentable.afterPosition (presentable : Presentable py pos) (fill : TradeFill) :
    Presentable py (afterPosition pos fill) := by
  obtain ⟨last, _, symbol⟩ := afterPosition_marked pos fill
  exact
    { named := symbol ▸ presentable.named
      average_nonneg := averagePrice_nonneg presentable.average_nonneg fill
      last_nonneg := last ▸ presentable.last_nonneg }

theorem Presentable.newPosition {fill : TradeFill} (named : py.isBlank fill.symbol = false)
    (product : ProductType) : Presentable py (newPosition product fill) :=
  { named := named
    average_nonneg := le_refl 0
    last_nonneg := nofun }

theorem Presentable.markPosition (presentable : Presentable py pos)
    {latestPrices : OrderedDict String ℚ} {symbol : String}
    (priced : ∀ price ∈ latestPrices.get? symbol, 0 ≤ price) :
    Presentable py (BacktestPortfolio.markPosition latestPrices symbol pos) := by
  unfold BacktestPortfolio.markPosition
  cases found : latestPrices.get? symbol with
  | none => exact presentable
  | some price =>
      dsimp only
      split_ifs
      · exact
          { named := presentable.named
            average_nonneg := presentable.average_nonneg
            last_nonneg := by
              rintro marked ⟨⟩
              exact priced price found }
      · exact presentable

theorem Presentable.toPosition (presentable : Presentable py pos) :
    BacktestPortfolio.toPosition py pos = .ok (BacktestPortfolio.positionView pos) := by
  have last : ¬ pos.lastPrice.any (fun price => price < 0) = true := by
    cases lastPrice : pos.lastPrice with
    | none => exact Bool.false_ne_true
    | some price =>
        have nonneg := presentable.last_nonneg price lastPrice
        rw [Option.any_some, decide_eq_true_eq]
        exact not_lt.mpr nonneg
  unfold BacktestPortfolio.toPosition
  rw [presentable.named, if_neg Bool.false_ne_true,
    if_neg (not_lt.mpr presentable.average_nonneg), if_neg last]

theorem Presentable.exposurePrice_nonneg (presentable : Presentable py pos) :
    0 ≤ BacktestPortfolio.exposurePrice pos := by
  unfold BacktestPortfolio.exposurePrice
  cases lastPrice : pos.lastPrice with
  | none => exact presentable.average_nonneg
  | some price =>
      dsimp only
      split_ifs
      · exact presentable.average_nonneg
      · exact presentable.last_nonneg price lastPrice

end Presentable

/-! ### Portfolios -/

namespace BacktestPortfolio

variable {portfolio : BacktestPortfolio} {py : Python}

/-- Every position of the portfolio is accepted by `to_position`. -/
def AllPresentable (py : Python) (portfolio : BacktestPortfolio) : Prop :=
  ∀ symbol pos, portfolio.positions.get? symbol = some pos → Presentable py pos

theorem AllPresentable.afterFill (presentable : portfolio.AllPresentable py) {fill : TradeFill}
    (named : py.isBlank fill.symbol = false) : (portfolio.afterFill fill).AllPresentable py := by
  intro symbol pos held
  rw [afterFill_get?] at held
  split_ifs at held
  · rw [← Option.some.inj held]
    apply Presentable.afterPosition
    unfold BacktestPortfolio.positionFor
    cases found : portfolio.positions.get? fill.symbol with
    | none => exact Presentable.newPosition named _
    | some before => exact presentable fill.symbol before found
  · exact presentable symbol pos held

theorem AllPresentable.settle (presentable : portfolio.AllPresentable py)
    {quoted : Option TradeFill} (named : ∀ fill ∈ quoted, py.isBlank fill.symbol = false) :
    (portfolio.settle quoted).2.AllPresentable py := by
  cases quoted with
  | none => exact presentable
  | some fill =>
      unfold BacktestPortfolio.settle
      dsimp only
      split_ifs
      · exact presentable
      · exact presentable.afterFill (named fill rfl)

theorem AllPresentable.markToMarket (presentable : portfolio.AllPresentable py)
    (timestamp : Datetime) {latestPrices : OrderedDict String ℚ}
    (priced : ∀ symbol price, latestPrices.get? symbol = some price → 0 ≤ price) :
    (portfolio.markToMarket timestamp latestPrices).AllPresentable py := by
  intro symbol pos held
  change (portfolio.positions.mapValues _).get? symbol = some pos at held
  rw [OrderedDict.get?_mapValues] at held
  obtain ⟨before, found, rfl⟩ := Option.map_eq_some_iff.mp held
  exact (presentable symbol before found).markPosition (fun price => priced symbol price)

theorem AllPresentable.grossExposure_nonneg (presentable : portfolio.AllPresentable py) :
    0 ≤ portfolio.grossExposure := by
  unfold grossExposure
  apply add_nonneg
  · apply OrderedDict.total_nonneg
    intro symbol pos held
    have price := (presentable symbol pos held).exposurePrice_nonneg
    split_ifs with long
    · exact mul_nonneg (Int.cast_nonneg long.le) price
    · exact le_refl 0
  · apply OrderedDict.total_nonneg
    intro symbol pos held
    have price := (presentable symbol pos held).exposurePrice_nonneg
    split_ifs with short
    · exact mul_nonneg (Int.cast_nonneg (by omega)) price
    · exact le_refl 0

theorem AllPresentable.getSnapshot (presentable : portfolio.AllPresentable py) :
    ∃ snapshot, portfolio.getSnapshot py = .ok snapshot := by
  have mapped : portfolio.positions.entries.mapM (fun entry => toPosition py entry.2) =
      .ok (portfolio.positions.entries.map (fun entry => positionView entry.2)) := by
    have each : ∀ entry ∈ portfolio.positions.entries, Presentable py entry.2 :=
      fun entry member => presentable entry.1 entry.2 (OrderedDict.get?_eq_some_iff.mpr member)
    revert each
    induction portfolio.positions.entries with
    | nil => exact fun _each => rfl
    | cons entry rest ih =>
        intro each
        rw [List.mapM_cons, (each entry List.mem_cons_self).toPosition,
          ih (fun other member => each other (List.mem_cons_of_mem _ member))]
        rfl
  unfold BacktestPortfolio.getSnapshot
  rw [mapped]
  dsimp only
  rw [if_neg (not_lt.mpr presentable.grossExposure_nonneg)]
  exact ⟨_, rfl⟩

end BacktestPortfolio

/-! ### Runs -/

/-- What lets a session take its snapshots. -/
structure Valued {σ : Type} (py : Python) (session : Session σ) : Prop where
  presentable : session.portfolio.AllPresentable py
  priced : ∀ symbol price, session.latestPrices.get? symbol = some price → 0 ≤ price

namespace BacktestEngine

variable {σ κ : Type} {engine : BacktestEngine σ κ}

theorem keeps_valued :
    engine.loop.Keeps (fun past session => (∀ row ∈ rounds past, 0 ≤ row.bar.close) →
      Valued engine.simulatedBroker.py session) where
  enter past row session intents session' valued entered := by
    intro closes
    rw [rounds_append] at closes
    obtain ⟨presentable, priced⟩ := valued
      (fun earlier member => closes earlier (List.mem_append_left _ member))
    obtain ⟨strategyState, _, rfl⟩ := onBar_eq_ok entered
    refine ⟨presentable, ?_⟩
    intro symbol price found
    dsimp only at found
    rw [OrderedDict.get?_insert] at found
    split_ifs at found
    · rw [← Option.some.inj found]
      exact closes row (List.mem_append_right _ List.mem_cons_self)
    · exact priced symbol price found
  item past row intent session session' valued handled := by
    intro closes
    rw [rounds_append] at closes
    obtain ⟨presentable, priced⟩ := valued
      (fun earlier member => closes earlier (List.mem_append_left _ member))
    obtain ⟨decision, riskState, _, ⟨_, rfl⟩ | ⟨refusal, _, _, rfl⟩⟩ := handleIntent_cases handled
    · refine ⟨presentable.settle ?_, priced⟩
      intro fill quoted
      have facts := SimulatedBroker.quoted quoted
      rw [facts.symbol]
      exact facts.named
    · exact ⟨presentable, priced⟩
  leave past row session valued := by
    intro closes
    rw [rounds_append] at closes
    obtain ⟨presentable, priced⟩ := valued
      (fun earlier member => closes earlier (List.mem_append_left _ member))
    exact ⟨presentable.markToMarket row.bar.timestamp priced, priced⟩

/-- In a run from a fresh portfolio over bars that do not close below zero every snapshot can
be taken. -/
theorem snapshot_taken {initialCash : ℚ} {product : ProductType}
    (fresh : new initialCash product = .ok engine.portfolio) {candles : List Domain.Bar}
    (closes : ∀ bar ∈ candles, 0 ≤ bar.close) :
    ∀ event ∈ engine.traceRows (iterBars candles),
      ∃ snapshot, event.state.portfolio.getSnapshot engine.simulatedBroker.py = .ok snapshot := by
  have started : ∀ session, engine.start = .ok session →
      (∀ row ∈ rounds ([] : List (SessionEvent σ)), 0 ≤ row.bar.close) →
        Valued engine.simulatedBroker.py session := by
    intro session begun _closes
    obtain ⟨strategyState, _, rfl⟩ := start_eq_ok begun
    have empty : engine.portfolio.positions = OrderedDict.empty := (new_eq_ok fresh).2.1
    refine ⟨?_, nofun⟩
    intro symbol pos held
    change engine.portfolio.positions.get? symbol = some pos at held
    rw [empty] at held
    cases held
  intro event member
  obtain ⟨earlier, later, split⟩ := List.append_of_mem member
  have along := (traceRows_history (iterBars candles) started keeps_valued).1
  refine (along earlier event later split ?_).presentable.getSnapshot
  intro row opened
  have inTrace : row ∈ rounds (engine.traceRows (iterBars candles)) := by
    rw [split, rounds_append]
    exact List.mem_append_left _ opened
  obtain ⟨bar, given, rfl⟩ := mem_iterBars.mp (rounds_traceRows_subset _ inTrace)
  exact closes bar given

end BacktestEngine

end TradingEngine.Backtest
