/-
From the day's market data to the reports of the strategies.

Every strategy fetches a frame for each symbol of its portfolio, skips a symbol
whose frame is missing or too short with a fetch error, and replays the others.
The sweep scripts write one entry a symbol into a portfolio file.
-/

import TradingEngine.Master.Run
import TradingEngine.Scripts.DailyPairReplay
import TradingEngine.Scripts.DailyReplay

namespace TradingEngine.Master

/-- The `period` argument of `fetch_ohlcv`. -/
inductive Period where
  | oneYear
  | twoYears
deriving DecidableEq

/-- What `fetch_ohlcv` returns on one day. -/
abbrev Market := Period → Ticker → Option (Frame ℚ)

/-! ### Portfolios -/

structure SymbolPlan (P : Type) where
  symbol : Ticker
  params : P

def SymbolPlan.sym {P : Type} (plan : SymbolPlan P) : Symbol :=
  Symbol.single plan.symbol

structure Portfolio (P : Type) where
  plans : List (SymbolPlan P)
  distinct : (plans.map SymbolPlan.sym).Nodup

structure PairPlan where
  symbolA : Ticker
  symbolB : Ticker
  params : PaperTrader.Params ℚ

def PairPlan.sym (plan : PairPlan) : Symbol :=
  Symbol.pair plan.symbolA plan.symbolB

structure PairPortfolio where
  plans : List PairPlan
  distinct : (plans.map PairPlan.sym).Nodup

structure Portfolios where
  swan : PairPortfolio
  bb : Portfolio (BBSqueezeTrader.Params ℚ)
  ma : Portfolio (MAPullbackTrader.Params ℚ)
  st : Portfolio (SupertrendTrader.Params ℚ)

/-! ### Strategies that replay single symbols -/

/-- A strategy with the checks that its loop makes before a replay.  Its rules read no
later bar and decide one action a bar. -/
structure SymbolTrader (I P : Type) where
  strat : StrategyName
  period : Period
  minBars : P → ℕ
  rules : P → ReplayRules I ℚ
  maxHoldDays : P → ℤ
  causal : ∀ params, (rules params).Causal
  single : ∀ params, (rules params).SingleActions

namespace SymbolTrader

variable {I P : Type} (trader : SymbolTrader I P)

def replaySymbol (df : Frame ℚ) (params : P) : ReplayResult ℚ :=
  (trader.rules params).replay df (trader.maxHoldDays params)

def fetchData (market : Market) (plan : SymbolPlan P) : Option (Frame ℚ) :=
  (market trader.period plan.symbol).filter
    (fun df => trader.minBars plan.params ≤ df.length)

def states (market : Market) (portfolio : Portfolio P) : List (Symbol × ReplayResult ℚ) :=
  portfolio.plans.filterMap (fun plan =>
    (trader.fetchData market plan).map (fun df =>
      (plan.sym, trader.replaySymbol df plan.params)))

def fetchErrors (market : Market) (portfolio : Portfolio P) : List FetchError :=
  (portfolio.plans.filter (fun plan => (trader.fetchData market plan).isNone)).map
    (fun plan =>
      { strategy := trader.strat
        label := plan.symbol
        message := "Failed to fetch data" })

theorem exists_fetchData {market : Market} {portfolio : Portfolio P}
    (complete : trader.fetchErrors market portfolio = []) {plan : SymbolPlan P}
    (member : plan ∈ portfolio.plans) : ∃ df, trader.fetchData market plan = some df := by
  have nobody := List.filter_eq_nil_iff.mp (List.map_eq_nil_iff.mp complete) plan member
  exact Option.ne_none_iff_exists'.mp (fun missing => nobody (by rw [missing]; rfl))

theorem market_of_fetchData {market : Market} {plan : SymbolPlan P} {df : Frame ℚ}
    (fetched : trader.fetchData market plan = some df) :
    market trader.period plan.symbol = some df :=
  (Option.filter_eq_some_iff.mp fetched).1

theorem mem_states {market : Market} {portfolio : Portfolio P}
    {state : Symbol × ReplayResult ℚ} :
    state ∈ trader.states market portfolio ↔
      ∃ plan ∈ portfolio.plans, ∃ df, trader.fetchData market plan = some df ∧
        state = (plan.sym, trader.replaySymbol df plan.params) := by
  unfold states
  rw [List.mem_filterMap]
  constructor
  · rintro ⟨plan, member, made⟩
    obtain ⟨df, fetched, rfl⟩ := Option.map_eq_some_iff.mp made
    exact ⟨plan, member, df, fetched, rfl⟩
  · rintro ⟨plan, member, df, fetched, rfl⟩
    exact ⟨plan, member, by rw [fetched]; rfl⟩

end SymbolTrader

theorem Portfolio.plan_eq {P : Type} (portfolio : Portfolio P) {left right : SymbolPlan P}
    (leftMember : left ∈ portfolio.plans) (rightMember : right ∈ portfolio.plans)
    (same : left.sym = right.sym) : left = right :=
  List.inj_on_of_nodup_map portfolio.distinct leftMember rightMember same

theorem PairPortfolio.plan_eq (portfolio : PairPortfolio) {left right : PairPlan}
    (leftMember : left ∈ portfolio.plans) (rightMember : right ∈ portfolio.plans)
    (same : left.sym = right.sym) : left = right :=
  List.inj_on_of_nodup_map portfolio.distinct leftMember rightMember same

def bbTrader (sqrt : ℚ → ℚ) :
    SymbolTrader (Option (BBSqueezeTrader.Reading ℚ)) (BBSqueezeTrader.Params ℚ) :=
  { strat := .bbSqueeze
    period := .oneYear
    minBars := fun _params => BBSqueezeTrader.bbWindow + 2
    rules := BBSqueezeTrader.Params.rules sqrt
    maxHoldDays := BBSqueezeTrader.Params.maxHoldDays
    causal := BBSqueezeTrader.Params.rules_causal sqrt
    single := BBSqueezeTrader.Params.rules_singleActions sqrt }

def maTrader : SymbolTrader (RsiState ℚ) (MAPullbackTrader.Params ℚ) :=
  { strat := .maPullback
    period := .twoYears
    minBars := fun params => params.trendMaPeriod + 2
    rules := MAPullbackTrader.Params.rules
    maxHoldDays := MAPullbackTrader.Params.maxHoldDays
    causal := MAPullbackTrader.Params.rules_causal
    single := MAPullbackTrader.Params.rules_singleActions }

def stTrader : SymbolTrader (SupertrendTrader.Indicators ℚ) (SupertrendTrader.Params ℚ) :=
  { strat := .supertrend
    period := .twoYears
    minBars := fun params => params.atrPeriod + 2
    rules := SupertrendTrader.Params.rules
    maxHoldDays := SupertrendTrader.Params.maxHoldDays
    causal := SupertrendTrader.Params.rules_causal
    single := SupertrendTrader.Params.rules_singleActions }

theorem replaySymbol_eq (sqrt : ℚ → ℚ) :
    (bbTrader sqrt).replaySymbol = BBSqueezeTrader.replaySymbol sqrt ∧
      maTrader.replaySymbol = MAPullbackTrader.replaySymbol ∧
      stTrader.replaySymbol = SupertrendTrader.replaySymbol :=
  ⟨rfl, rfl, rfl⟩

/-! ### Pairs -/

namespace PairPlan

def replay (sqrt : ℚ → ℚ) (market : Market) (plan : PairPlan) :
    Except String (PaperTrader.PairReport ℚ) :=
  PaperTrader.replayPair sqrt (market .oneYear) plan.symbolA plan.symbolB plan.params

def rows (plan : PairPlan) (market : Market) : List (PairRow ℚ) :=
  PaperTrader.fetchedRows (market .oneYear) plan.symbolA plan.symbolB

theorem replay_eq_ok {sqrt : ℚ → ℚ} {plan : PairPlan} {market : Market}
    {report : PaperTrader.PairReport ℚ} (replayed : plan.replay sqrt market = .ok report) :
    ∃ dfA dfB last, market .oneYear plan.symbolA = some dfA ∧
      market .oneYear plan.symbolB = some dfB ∧ (plan.rows market).getLast? = some last ∧
      report = PaperTrader.replayRows sqrt plan.symbolA plan.symbolB plan.params
        (plan.rows market) last :=
  PaperTrader.replayPair_eq_ok replayed

end PairPlan

/-! ### All strategies -/

/-- The four replay loops of `run_master_trader`. -/
def strategyOutputs (sqrt : ℚ → ℚ) (portfolios : Portfolios) (market : Market) :
    StrategyOutputs :=
  { swanResults := portfolios.swan.plans.map (PairPlan.replay sqrt market)
    bbStates := (bbTrader sqrt).states market portfolios.bb
    maStates := maTrader.states market portfolios.ma
    stStates := stTrader.states market portfolios.st
    fetchErrors :=
      (bbTrader sqrt).fetchErrors market portfolios.bb ++
        (maTrader.fetchErrors market portfolios.ma ++
          stTrader.fetchErrors market portfolios.st) }

section Outputs

variable {outputs : StrategyOutputs} {plans : List PairPlan} {sqrt : ℚ → ℚ} {market : Market}

theorem mem_pairs_iff (listed : outputs.swanResults = plans.map (PairPlan.replay sqrt market))
    {report : PaperTrader.PairReport ℚ} :
    report ∈ outputs.pairs ↔ ∃ plan ∈ plans, plan.replay sqrt market = .ok report := by
  unfold StrategyOutputs.pairs
  rw [listed, List.filterMap_map, List.mem_filterMap]
  constructor
  · rintro ⟨plan, member, made⟩
    refine ⟨plan, member, ?_⟩
    rw [Function.comp_apply] at made
    cases replayed : plan.replay sqrt market with
    | ok other =>
        rw [replayed] at made
        cases made
        rfl
    | error message =>
        rw [replayed] at made
        contradiction
  · rintro ⟨plan, member, replayed⟩
    exact ⟨plan, member, by rw [Function.comp_apply, replayed]; rfl⟩

theorem exists_replay (listed : outputs.swanResults = plans.map (PairPlan.replay sqrt market))
    (complete : outputs.pairErrors = []) {plan : PairPlan} (member : plan ∈ plans) :
    ∃ report, plan.replay sqrt market = .ok report := by
  unfold StrategyOutputs.pairErrors at complete
  rw [listed] at complete
  have nothing := List.filterMap_eq_nil_iff.mp complete _ (List.mem_map_of_mem member)
  cases replayed : plan.replay sqrt market with
  | ok report => exact ⟨report, rfl⟩
  | error message =>
      rw [replayed] at nothing
      contradiction

end Outputs

/-! ### Market history -/

/-- The markets of consecutive runs.  Every run has a session of its own, on or after
the paper start, whose bar is the last one of every frame; the bars before are those
of the run before. -/
structure AppendOnly (sessions : ℕ → Timestamp) (markets : ℕ → Market) : Prop where
  started : ∀ day, paperTradingStart ≤ (sessions day).date
  daily : ∀ day period ticker df, markets day period ticker = some df → df.Daily
  session : ∀ day period ticker df, markets day period ticker = some df →
    df.lastBar.timestamp = sessions day
  grows : ∀ day period ticker df next, markets day period ticker = some df →
    markets (day + 1) period ticker = some next → ∃ bar, next = df.append [bar]

section History

variable {sessions : ℕ → Timestamp} {markets : ℕ → Market}

theorem AppendOnly.dailyFrames (history : AppendOnly sessions markets) {period : Period}
    {ticker : Ticker} {frames : ℕ → Frame ℚ}
    (fetched : ∀ day, markets day period ticker = some (frames day)) :
    ReplayRules.DailyFrames frames := by
  constructor
  · intro day
    obtain ⟨bar, next⟩ := history.grows day period ticker _ _ (fetched day) (fetched (day + 1))
    exact ⟨bar, congrArg Frame.bars next⟩
  · exact fun day => history.daily day period ticker _ (fetched day)
  · intro day
    have session := history.session day period ticker _ (fetched day)
    unfold Frame.todayDate
    rw [session]
    exact history.started day

theorem AppendOnly.dailyPair (history : AppendOnly sessions markets) {plan : PairPlan}
    {framesA framesB : ℕ → Frame ℚ}
    (fetchedA : ∀ day, markets day .oneYear plan.symbolA = some (framesA day))
    (fetchedB : ∀ day, markets day .oneYear plan.symbolB = some (framesB day)) :
    PaperTrader.DailyPair (fun day => plan.rows (markets day)) := by
  have rowsEq : ∀ day, plan.rows (markets day) =
      PaperTrader.alignRows (framesA day) (framesB day) :=
    fun day => PaperTrader.fetchedRows_of_fetched (fetchedA day) (fetchedB day)
  constructor
  · intro day
    obtain ⟨barA, nextA⟩ := history.grows day _ _ _ _ (fetchedA day) (fetchedA (day + 1))
    obtain ⟨barB, nextB⟩ := history.grows day _ _ _ _ (fetchedB day) (fetchedB (day + 1))
    have dailyA := history.daily (day + 1) _ _ _ (fetchedA (day + 1))
    have dailyB := history.daily (day + 1) _ _ _ (fetchedB (day + 1))
    have sessionA := history.session (day + 1) _ _ _ (fetchedA (day + 1))
    have sessionB := history.session (day + 1) _ _ _ (fetchedB (day + 1))
    rw [nextA] at dailyA sessionA
    rw [nextB] at dailyB sessionB
    rw [Frame.lastBar_append_singleton] at sessionA sessionB
    have grown := PaperTrader.alignRows_append dailyA dailyB (sessionA.trans sessionB.symm)
    rw [← nextA, ← nextB, ← rowsEq, ← rowsEq] at grown
    exact ⟨_, grown⟩
  · intro day
    rw [rowsEq]
    exact PaperTrader.dailyRows_alignRows (history.daily day _ _ _ (fetchedA day)) _
  · intro day last isLast
    change (plan.rows (markets day)).getLast? = some last at isLast
    have sessionA := history.session day _ _ _ (fetchedA day)
    have sessionB := history.session day _ _ _ (fetchedB day)
    obtain ⟨other, found, dated⟩ :=
      PaperTrader.getLast?_alignRows (sessionA.trans sessionB.symm)
    rw [rowsEq, found] at isLast
    cases isLast
    rw [dated, sessionA]
    exact history.started day

end History

/-! ### One stream of bars -/

def streamFrame (bars : ℕ → Bar ℚ) (last : ℕ) : Frame ℚ :=
  { bars := (List.range (last + 1)).map bars
    nonempty := by simp }

/-- Markets in which every symbol has the prices of one stream, some bars of which came
in before the first run. -/
def streamMarket (bars : ℕ → Bar ℚ) (before day : ℕ) : Market :=
  fun _period _ticker => some (streamFrame bars (before + day))

theorem streamFrame_succ (bars : ℕ → Bar ℚ) (last : ℕ) :
    streamFrame bars (last + 1) = (streamFrame bars last).append [bars (last + 1)] := by
  apply Frame.ext
  change (List.range (last + 1 + 1)).map bars = (List.range (last + 1)).map bars ++ _
  rw [List.range_succ, List.map_append, List.map_singleton]

theorem streamFrame_daily {bars : ℕ → Bar ℚ}
    (increasing : ∀ i, (bars i).timestamp.date < (bars (i + 1)).timestamp.date) (last : ℕ) :
    (streamFrame bars last).Daily := by
  have ordered : StrictMono (fun i => (bars i).timestamp.date) :=
    strictMono_nat_of_lt_succ increasing
  change ((List.range (last + 1)).map bars).Pairwise _
  rw [List.pairwise_map]
  apply List.pairwise_lt_range.imp
  exact fun order => ordered order

theorem streamFrame_lastBar (bars : ℕ → Bar ℚ) (last : ℕ) :
    (streamFrame bars last).lastBar = bars last := by
  cases last with
  | zero => rfl
  | succ last => rw [streamFrame_succ, Frame.lastBar_append_singleton]

theorem streamMarket_appendOnly {bars : ℕ → Bar ℚ} {before : ℕ}
    (increasing : ∀ i, (bars i).timestamp.date < (bars (i + 1)).timestamp.date)
    (started : ∀ day, paperTradingStart ≤ (bars (before + day)).timestamp.date) :
    AppendOnly (fun day => (bars (before + day)).timestamp) (streamMarket bars before) := by
  constructor
  · exact started
  · rintro day period ticker df ⟨⟩
    exact streamFrame_daily increasing _
  · rintro day period ticker df ⟨⟩
    rw [streamFrame_lastBar]
  · rintro day period ticker df next ⟨⟩ ⟨⟩
    exact ⟨_, streamFrame_succ bars (before + day)⟩

end TradingEngine.Master
