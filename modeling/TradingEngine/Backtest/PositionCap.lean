/-
The cap on open positions over whole backtest runs.

The risk engine counts the long positions of a snapshot taken before the fill.  The
count is the portfolio's own, a sale never adds to it, and a purchase adds at most one.
-/

import TradingEngine.Backtest.Engine

namespace TradingEngine.Backtest

open Domain Risk
open BacktestPortfolio (new)

def longWeight (_symbol : String) (pos : PositionState) : ℤ :=
  if 0 < pos.quantity then 1 else 0

namespace BacktestPortfolio

variable {portfolio : BacktestPortfolio} {fill : TradeFill}

/-- The number of symbols with a positive quantity. -/
def longPositions (portfolio : BacktestPortfolio) : ℕ :=
  (portfolio.positions.entries.filter (fun entry => 0 < entry.2.quantity)).length

/-- Every position is stored under its own symbol. -/
def Keyed (portfolio : BacktestPortfolio) : Prop :=
  ∀ symbol pos, portfolio.positions.get? symbol = some pos → pos.symbol = symbol

/-! ### Counting -/

theorem longPositions_eq_total (portfolio : BacktestPortfolio) :
    (portfolio.longPositions : ℤ) = portfolio.positions.total longWeight := by
  unfold longPositions OrderedDict.total longWeight
  induction portfolio.positions.entries with
  | nil => rfl
  | cons entry rest ih =>
      rw [List.filter_cons, List.map_cons, List.sum_cons, ← ih]
      by_cases long : 0 < entry.2.quantity
      · rw [if_pos (decide_eq_true long), if_pos long, List.length_cons]
        push_cast
        ring
      · rw [if_neg (by simpa using long), if_neg long, zero_add]

theorem longPositions_markToMarket (portfolio : BacktestPortfolio) (timestamp : Datetime)
    (latestPrices : OrderedDict String ℚ) :
    (portfolio.markToMarket timestamp latestPrices).longPositions = portfolio.longPositions := by
  have same : ((portfolio.markToMarket timestamp latestPrices).longPositions : ℤ) =
      portfolio.longPositions := by
    rw [longPositions_eq_total, longPositions_eq_total]
    change (portfolio.positions.mapValues _).total longWeight = _
    rw [OrderedDict.total_mapValues]
    apply OrderedDict.total_congr
    intro symbol pos _held
    unfold markPosition longWeight
    cases latestPrices.get? symbol with
    | none => rfl
    | some price =>
        dsimp only
        split_ifs <;> rfl
  exact_mod_cast same

theorem longPositions_afterFill (accepted : ¬ Oversells (portfolio.positionFor fill) fill) :
    ((portfolio.afterFill fill).longPositions : ℤ) +
        longWeight fill.symbol (portfolio.positionFor fill) =
      portfolio.longPositions +
        longWeight fill.symbol (afterPosition (portfolio.positionFor fill) fill) := by
  rw [longPositions_eq_total, longPositions_eq_total]
  exact afterFill_total longWeight rfl accepted

theorem longWeight_bounds (symbol : String) (pos : PositionState) :
    0 ≤ longWeight symbol pos ∧ longWeight symbol pos ≤ 1 := by
  unfold longWeight
  split_ifs <;> omega

theorem longWeight_sell (symbol : String) (pos : PositionState) (sell : fill.side = .sell) :
    longWeight symbol (afterPosition pos fill) ≤ longWeight symbol pos := by
  obtain ⟨buy, _, _⟩ | ⟨buy, _, _⟩ | ⟨_, long, after⟩ | ⟨_, short, after⟩ :=
    afterPosition_cases pos fill
  · rw [sell] at buy
    cases buy
  · rw [sell] at buy
    cases buy
  · have held : longWeight symbol pos = 1 := if_pos long
    rw [held]
    exact (longWeight_bounds _ _).2
  · have lower : (addShort pos fill).quantity = pos.quantity - fill.quantity := rfl
    have flat : longWeight symbol (addShort pos fill) = 0 := by
      unfold longWeight
      rw [lower, if_neg (by omega)]
    rw [after, flat]
    exact (longWeight_bounds _ _).1

theorem longPositions_settle {cap : ℕ} (within : portfolio.longPositions ≤ cap)
    {quoted : Option TradeFill}
    (room : ∀ fill, quoted = some fill → fill.side = .buy →
      0 < (portfolio.positionFor fill).quantity ∨ portfolio.longPositions < cap) :
    (portfolio.settle quoted).2.longPositions ≤ cap := by
  cases quoted with
  | none => exact within
  | some fill =>
      unfold settle
      dsimp only
      split_ifs with oversells
      · exact within
      · change (portfolio.afterFill fill).longPositions ≤ cap
        have counted := longPositions_afterFill oversells
        have before := longWeight_bounds fill.symbol (portfolio.positionFor fill)
        have after :=
          longWeight_bounds fill.symbol (afterPosition (portfolio.positionFor fill) fill)
        cases side : fill.side with
        | sell =>
            have fewer := longWeight_sell fill.symbol (portfolio.positionFor fill) side
            omega
        | buy =>
            rcases room fill rfl side with held | free
            · have long : longWeight fill.symbol (portfolio.positionFor fill) = 1 := if_pos held
              omega
            · omega

/-! ### Symbols -/

theorem Keyed.positionFor (keyed : portfolio.Keyed) (fill : TradeFill) :
    (portfolio.positionFor fill).symbol = fill.symbol := by
  unfold BacktestPortfolio.positionFor
  cases held : portfolio.positions.get? fill.symbol with
  | none => rfl
  | some pos => exact keyed fill.symbol pos held

theorem Keyed.afterFill (keyed : portfolio.Keyed) (fill : TradeFill) :
    (portfolio.afterFill fill).Keyed := by
  intro symbol pos held
  rw [afterFill_get?] at held
  split_ifs at held with traded
  · rw [← Option.some.inj held, (afterPosition_marked _ _).2.2, keyed.positionFor, traded.1]
  · exact keyed symbol pos held

theorem Keyed.settle (keyed : portfolio.Keyed) (quoted : Option TradeFill) :
    (portfolio.settle quoted).2.Keyed := by
  cases quoted with
  | none => exact keyed
  | some fill =>
      unfold BacktestPortfolio.settle
      dsimp only
      split_ifs
      · exact keyed
      · exact keyed.afterFill fill

theorem Keyed.markToMarket (keyed : portfolio.Keyed) (timestamp : Datetime)
    (latestPrices : OrderedDict String ℚ) :
    (portfolio.markToMarket timestamp latestPrices).Keyed := by
  intro symbol pos held
  change (portfolio.positions.mapValues _).get? symbol = some pos at held
  rw [OrderedDict.get?_mapValues] at held
  obtain ⟨before, found, rfl⟩ := Option.map_eq_some_iff.mp held
  rw [← keyed symbol before found]
  unfold markPosition
  cases latestPrices.get? before.symbol with
  | none => rfl
  | some price =>
      dsimp only
      split_ifs <;> rfl

/-! ### The snapshot -/

theorem openPositions_getSnapshot {py : Python} {snapshot : PortfolioSnapshot}
    (taken : portfolio.getSnapshot py = .ok snapshot) :
    RiskEngine.openPositions snapshot = portfolio.longPositions := by
  unfold RiskEngine.openPositions longPositions
  rw [(getSnapshot_eq taken).1, List.filter_map, List.length_map]
  rfl

theorem alreadyHeld_getSnapshot (keyed : portfolio.Keyed) {py : Python}
    {snapshot : PortfolioSnapshot} (taken : portfolio.getSnapshot py = .ok snapshot)
    {intent : OrderIntent} (held : RiskEngine.alreadyHeld intent snapshot = true)
    {fill : TradeFill} (symbol : fill.symbol = intent.symbol) :
    0 < (portfolio.positionFor fill).quantity := by
  unfold RiskEngine.alreadyHeld at held
  rw [(getSnapshot_eq taken).1] at held
  obtain ⟨view, member, matching⟩ := List.any_eq_true.mp held
  obtain ⟨⟨key, pos⟩, entry, rfl⟩ := List.mem_map.mp member
  have found := OrderedDict.get?_eq_some_iff.mpr entry
  have own := keyed key pos found
  obtain ⟨named, long⟩ := (Bool.and_eq_true _ _).mp matching
  have same : pos.symbol = intent.symbol := of_decide_eq_true named
  unfold positionFor
  rw [symbol, ← same, own, found]
  exact of_decide_eq_true long

end BacktestPortfolio

/-! ### The run -/

namespace BacktestEngine

variable {σ κ : Type} {engine : BacktestEngine σ κ}

theorem room_of_approved {riskEngine : RiskEngine} (guarded : engine.riskEngine = some riskEngine)
    {row : FeedRow} {intent : OrderIntent} {session : Session σ} (keyed : session.portfolio.Keyed)
    {decision : Option RiskDecision} {riskState : RiskState}
    (checked : engine.runRiskCheck intent row.bar.timestamp session = .ok (decision, riskState))
    (approved : decision.all RiskDecision.approved = true) {fill : TradeFill}
    (quoted : engine.simulatedBroker.quote (engine.fillId session.handled) intent row.bar =
      some fill) (buy : fill.side = .buy) :
    0 < (session.portfolio.positionFor fill).quantity ∨
      session.portfolio.longPositions < riskEngine.limits.maxOpenPositions := by
  obtain ⟨snapshot, taken, rfl, _⟩ := runRiskCheck_eq_ok guarded checked
  have facts := SimulatedBroker.quoted quoted
  rcases RiskEngine.room_of_approved approved (facts.side.symm.trans buy) with held | room
  · exact Or.inl (BacktestPortfolio.alreadyHeld_getSnapshot keyed taken held facts.symbol)
  · rw [BacktestPortfolio.openPositions_getSnapshot taken] at room
    exact Or.inr room

/-- The portfolio of a session is stored by symbol and within the cap. -/
structure Capped (cap : ℕ) (session : Session σ) : Prop where
  keyed : session.portfolio.Keyed
  within : session.portfolio.longPositions ≤ cap

theorem keeps_capped {riskEngine : RiskEngine} (guarded : engine.riskEngine = some riskEngine) :
    engine.loop.Keeps (fun _past session => Capped riskEngine.limits.maxOpenPositions session) where
  enter _past row session intents session' capped entered := by
    obtain ⟨strategyState, _, rfl⟩ := onBar_eq_ok entered
    exact ⟨capped.keyed, capped.within⟩
  item _past row intent session session' capped handled := by
    obtain ⟨decision, riskState, checked, ⟨approved, rfl⟩ | ⟨refusal, _, _, rfl⟩⟩ :=
      handleIntent_cases handled
    · exact
        { keyed := capped.keyed.settle _
          within := BacktestPortfolio.longPositions_settle capped.within
            (fun fill quoted buy =>
              room_of_approved guarded capped.keyed checked approved quoted buy) }
    · exact ⟨capped.keyed, capped.within⟩
  leave _past row session capped :=
    { keyed := capped.keyed.markToMarket _ _
      within := by
        change (session.portfolio.markToMarket _ _).longPositions ≤ _
        rw [BacktestPortfolio.longPositions_markToMarket]
        exact capped.within }

/-- No state of a guarded run from a fresh portfolio holds more long positions than the limit
allows, whether it is inside a bar or at the end. -/
theorem position_cap {riskEngine : RiskEngine} (guarded : engine.riskEngine = some riskEngine)
    {initialCash : ℚ} {product : ProductType}
    (fresh : new initialCash product = .ok engine.portfolio) (candles : List Domain.Bar) :
    (∀ event ∈ engine.traceRows (iterBars candles),
      event.state.portfolio.longPositions ≤ riskEngine.limits.maxOpenPositions) ∧
      ∀ session, engine.runRows (iterBars candles) = .ok session →
        session.portfolio.longPositions ≤ riskEngine.limits.maxOpenPositions := by
  have started : ∀ session, engine.start = .ok session →
      Capped riskEngine.limits.maxOpenPositions session := by
    intro session begun
    obtain ⟨strategyState, _, rfl⟩ := start_eq_ok begun
    have empty : engine.portfolio.positions = OrderedDict.empty := (new_eq_ok fresh).2.1
    refine ⟨?_, ?_⟩
    · intro symbol pos held
      change engine.portfolio.positions.get? symbol = some pos at held
      rw [empty] at held
      cases held
    · change engine.portfolio.longPositions ≤ _
      unfold BacktestPortfolio.longPositions
      rw [empty]
      exact Nat.zero_le _
  obtain ⟨along, final⟩ :=
    traceRows_invariant (iterBars candles) started (keeps_capped guarded)
  exact ⟨fun event member => (along event member).within,
    fun session ran => (final session ran).within⟩

/-! ### Two purchases on one bar -/

def singlePosition : RiskEngine :=
  RiskEngine.ascii
    { RiskLimits.standard with
      maxOpenPositions := 1
      maxOpenPositions_pos := Nat.one_pos }

def cappedEngine : BacktestEngine (List (List OrderIntent)) Unit :=
  scriptedEngine (some singlePosition)
    [[limitOrder "INFY" .buy 100, limitOrder "TCS" .buy 100], [limitOrder "INFY" .sell 100]]

def cappedBars : List Domain.Bar :=
  [flatBar "INFY" 0 100, flatBar "INFY" 60000000 100]

theorem cappedRun_within :
    (cappedEngine.traceRows (iterBars cappedBars)).all
      (fun event => event.state.portfolio.longPositions ≤ 1) = true := by
  have fresh : new 1000 .mis = .ok cappedEngine.portfolio := if_neg (by norm_num)
  have guarded : cappedEngine.riskEngine = some singlePosition := rfl
  rw [List.all_eq_true]
  intro event member
  exact decide_eq_true ((position_cap guarded fresh cappedBars).1 event member)

/-- The second purchase finds no room. -/
example : (cappedEngine.run cappedBars).toOption.map (fun report =>
    (report.fills.map TradeFill.symbol, report.rejectedRiskDecisions.map
      RiskDecision.reasonCode)) =
    some (["INFY", "INFY"], [.positionLimitBreached]) := by
  decide +kernel

end BacktestEngine

end TradingEngine.Backtest
