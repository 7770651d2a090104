/-
The report of a backtest explains itself.

Marking to market moves no money, so cash and positions are what the fills of the report make
of the initial cash.  With the last close of each traded symbol the final equity can be
recomputed from the fills, and every point of the equity curve is the final equity of the run
up to it.
-/

import TradingEngine.Backtest.RunHistory

namespace TradingEngine.Backtest

open BacktestPortfolio Domain RoundLoop Strategies

def lastClose (rows : List FeedRow) (symbol : String) : Option ℚ :=
  ((rows.filter (fun row => row.symbol = symbol)).getLast?).map (fun row => row.bar.close)

theorem lastClose_concat (rows : List FeedRow) (row : FeedRow) (symbol : String) :
    lastClose (rows ++ [row]) symbol =
      if symbol = row.symbol then some row.bar.close else lastClose rows symbol := by
  unfold lastClose
  rw [List.filter_append, List.filter_singleton]
  split_ifs with same
  · rw [decide_eq_true same.symm, cond_true, List.getLast?_concat]
    rfl
  · rw [decide_eq_false (Ne.symm same), cond_false, List.append_nil]

theorem lastClose_isSome {rows : List FeedRow} {row : FeedRow} (member : row ∈ rows) :
    ∃ price, lastClose rows row.symbol = some price := by
  have kept : row ∈ rows.filter (fun other => other.symbol = row.symbol) :=
    List.mem_filter.mpr ⟨member, decide_eq_true rfl⟩
  unfold lastClose
  cases last : (rows.filter (fun other => other.symbol = row.symbol)).getLast? with
  | none =>
      rw [List.getLast?_eq_none_iff.mp last] at kept
      exact absurd kept List.not_mem_nil
  | some found => exact ⟨found.bar.close, rfl⟩

def gainOf (price : String → ℚ) (fill : TradeFill) : ℚ :=
  signedQuantity fill * (price fill.symbol - fill.price) - fill.fees

/-- What the open positions are worth at prices of their symbols. -/
def holdingsValue (price : String → ℚ) (portfolio : BacktestPortfolio) : ℚ :=
  portfolio.positions.total (fun symbol pos => pos.quantity * price symbol)

/-! ### Money along a run -/

/-- Cash and positions are what the fills make of the initial cash. -/
structure Explained (initialCash : ℚ) (fills : List TradeFill) (portfolio : BacktestPortfolio) :
    Prop where
  booked : portfolio.fills = fills
  cash : portfolio.cash = initialCash + (fills.map cashFlow).sum
  holdings : ∀ price, holdingsValue price portfolio =
    (fills.map (fun fill => signedQuantity fill * price fill.symbol)).sum
  traded : ∀ symbol pos, portfolio.positions.get? symbol = some pos → pos.quantity ≠ 0 →
    ∃ fill ∈ fills, fill.symbol = symbol

section Explained

variable {initialCash : ℚ} {fills : List TradeFill} {portfolio : BacktestPortfolio}

theorem explained_new {product : ProductType}
    (created : BacktestPortfolio.new initialCash product = .ok portfolio) :
    Explained initialCash [] portfolio := by
  obtain ⟨cash, positions, noFills⟩ := new_eq_ok created
  refine ⟨noFills, ?_, ?_, ?_⟩
  · rw [cash, List.map_nil, List.sum_nil, add_zero]
  · intro price
    unfold holdingsValue
    rw [positions]
    rfl
  · intro symbol pos held
    rw [positions] at held
    cases held

theorem Explained.afterFill (explained : Explained initialCash fills portfolio) {fill : TradeFill}
    (accepted : ¬ Oversells (portfolio.positionFor fill) fill) :
    Explained initialCash (fills ++ [fill]) (portfolio.afterFill fill) := by
  refine ⟨?_, ?_, ?_, ?_⟩
  · have booked := run_fills portfolio [fill]
    rw [acceptedFills, applyFill_of_accepted accepted, acceptedFills, explained.booked] at booked
    exact booked
  · have cash : (portfolio.afterFill fill).cash = portfolio.cash + cashFlow fill := by
      rw [BacktestPortfolio.afterFill, applyFill_of_accepted accepted]
      rfl
    rw [cash, explained.cash, List.map_append, List.sum_append, List.map_singleton,
      List.sum_singleton, add_assoc]
  · intro price
    have moved := afterFill_total (fun symbol pos => (pos.quantity : ℚ) * price symbol)
      (by simp [newPosition]) accepted
    have before := explained.holdings price
    unfold holdingsValue at before ⊢
    rw [afterPosition_quantity, before] at moved
    push_cast at moved
    rw [List.map_append, List.sum_append, List.map_singleton, List.sum_singleton]
    linarith
  · intro symbol pos held isOpen
    rw [afterFill_get?] at held
    split_ifs at held with own
    · exact ⟨fill, List.mem_append_right _ List.mem_cons_self, own.1.symm⟩
    · obtain ⟨earlier, member, same⟩ := explained.traded symbol pos held isOpen
      exact ⟨earlier, List.mem_append_left _ member, same⟩

theorem Explained.settle (explained : Explained initialCash fills portfolio)
    (quoted : Option TradeFill) :
    Explained initialCash (fills ++ (portfolio.settle quoted).1.toList)
      (portfolio.settle quoted).2 := by
  unfold BacktestPortfolio.settle
  cases quoted with
  | none =>
      rw [Option.toList_none, List.append_nil]
      exact explained
  | some fill =>
      dsimp only
      split_ifs with oversells
      · rw [Option.toList_none, List.append_nil]
        exact explained
      · exact explained.afterFill oversells

theorem markPosition_quantity (latestPrices : OrderedDict String ℚ) (symbol : String)
    (pos : PositionState) : (markPosition latestPrices symbol pos).quantity = pos.quantity := by
  unfold markPosition
  cases latestPrices.get? symbol with
  | none => rfl
  | some price =>
      dsimp only
      split_ifs <;> rfl

theorem Explained.markToMarket (explained : Explained initialCash fills portfolio)
    (timestamp : Datetime) (latestPrices : OrderedDict String ℚ) :
    Explained initialCash fills (portfolio.markToMarket timestamp latestPrices) := by
  refine ⟨explained.booked, explained.cash, ?_, ?_⟩
  · intro price
    rw [← explained.holdings price]
    unfold holdingsValue BacktestPortfolio.markToMarket
    rw [OrderedDict.total_mapValues]
    simp only [markPosition_quantity]
  · intro symbol pos held isOpen
    change (portfolio.positions.mapValues _).get? symbol = some pos at held
    rw [OrderedDict.get?_mapValues] at held
    obtain ⟨earlier, found, rfl⟩ := Option.map_eq_some_iff.mp held
    rw [markPosition_quantity] at isOpen
    exact explained.traded symbol earlier found isOpen

/-- With a price for every traded symbol the equity is the initial cash and what each fill has
gained since. -/
theorem Explained.totalEquity_eq (explained : Explained initialCash fills portfolio)
    {latestPrices : OrderedDict String ℚ} {price : String → ℚ}
    (priced : ∀ fill ∈ fills, latestPrices.get? fill.symbol = some (price fill.symbol)) :
    portfolio.totalEquity latestPrices = initialCash + (fills.map (gainOf price)).sum := by
  have worth : portfolio.totalEquity latestPrices =
      portfolio.cash + holdingsValue price portfolio := by
    unfold totalEquity holdingsValue
    congr 1
    apply OrderedDict.total_congr
    intro symbol pos held
    split_ifs with isOpen
    · obtain ⟨fill, member, rfl⟩ := explained.traded symbol pos held isOpen
      rw [priced fill member]
      rfl
    · rw [not_not.mp isOpen, Int.cast_zero, zero_mul]
  rw [worth, explained.cash, explained.holdings price, add_assoc]
  congr 1
  clear worth explained priced
  induction fills with
  | nil => exact add_zero 0
  | cons fill rest ih =>
      simp only [List.map_cons, List.sum_cons, gainOf, cashFlow] at ih ⊢
      linarith

end Explained

/-! ### Runs -/

/-- The session after these rows: its portfolio is explained by its fills, and it knows the
last close of every symbol. -/
structure Accounted {σ : Type} (initialCash : ℚ) (rows : List FeedRow) (session : Session σ) :
    Prop where
  explained : Explained initialCash session.fills session.portfolio
  prices : ∀ symbol, session.latestPrices.get? symbol = lastClose rows symbol

namespace BacktestEngine

variable {σ κ : Type} {engine : BacktestEngine σ κ} {initialCash : ℚ}

theorem keeps_accounted :
    engine.loop.Keeps (fun past session => Accounted initialCash (rounds past) session) where
  enter past row session intents session' accounted entered := by
    obtain ⟨strategyState, _, rfl⟩ := onBar_eq_ok entered
    refine ⟨accounted.explained, ?_⟩
    intro symbol
    rw [rounds_append]
    change (session.latestPrices.insert row.symbol row.bar.close).get? symbol =
      lastClose (rounds past ++ [row]) symbol
    rw [OrderedDict.get?_insert, lastClose_concat, accounted.prices]
  item past row intent session session' accounted handled := by
    have same : rounds (past ++ [.handled row intent session]) = rounds past := by
      rw [rounds_append]
      exact List.append_nil _
    rw [same]
    obtain ⟨decision, riskState, _, ⟨_, rfl⟩ | ⟨refusal, _, _, rfl⟩⟩ := handleIntent_cases handled
    · exact ⟨accounted.explained.settle _, accounted.prices⟩
    · exact ⟨accounted.explained, accounted.prices⟩
  leave past row session accounted := by
    have same : rounds (past ++ [.left row session]) = rounds past := by
      rw [rounds_append]
      exact List.append_nil _
    rw [same]
    exact ⟨accounted.explained.markToMarket _ _, accounted.prices⟩

theorem accounted_of_runRows {product : ProductType}
    (created : BacktestPortfolio.new initialCash product = .ok engine.portfolio)
    {rows : List FeedRow} {session : Session σ} (ran : engine.runRows rows = .ok session) :
    Accounted initialCash rows session := by
  have started : ∀ session, engine.start = .ok session →
      Accounted initialCash (rounds ([] : List (SessionEvent σ))) session := by
    intro session begun
    obtain ⟨strategyState, _, rfl⟩ := start_eq_ok begun
    exact ⟨explained_new created, fun _symbol => rfl⟩
  have accounted := (traceRows_history rows started keeps_accounted).2 session ran
  have opened : rounds (engine.traceRows rows) = rows := by
    unfold runRows at ran
    unfold traceRows
    cases begun : engine.start with
    | error raised =>
        rw [begun] at ran
        cases ran
    | ok first =>
        rw [begun] at ran
        exact rounds_trace_of_ok ran
  rw [opened] at accounted
  exact accounted

theorem equityCurve_step {row : FeedRow} {session session' : Session σ}
    (stepped : engine.loop.step row session = .ok session') :
    session'.portfolio.equityCurve = session.portfolio.equityCurve ++
      [(row.bar.timestamp, session'.portfolio.totalEquity session'.latestPrices)] := by
  obtain ⟨intents, opened, last, entered, handled, rfl⟩ := step_eq_ok stepped
  have kept : last.portfolio.equityCurve = opened.portfolio.equityCurve := by
    have unchanged : ∀ intent (session session' : Session σ),
        engine.handleIntent row intent session = .ok session' →
          session.portfolio.equityCurve = session'.portfolio.equityCurve := by
      intro intent session session' done
      obtain ⟨_, _, _, ⟨_, rfl⟩ | ⟨_, _, _, rfl⟩⟩ := handleIntent_cases done
      · exact (equityCurve_settle _ _).symm
      · rfl
    exact (@items_rel _ _ _ _ engine.loop
      (fun earlier later => earlier.portfolio.equityCurve = later.portfolio.equityCurve)
      (fun _session => rfl) (fun _ _ _ => Eq.trans) row intents opened last unchanged
      handled).symm
  obtain ⟨_, _, rfl⟩ := onBar_eq_ok entered
  change last.portfolio.equityCurve ++ [_] = _
  rw [kept]
  rfl

theorem length_equityCurve {rows : List FeedRow} {session final : Session σ}
    (ran : engine.loop.run rows session = .ok final) :
    final.portfolio.equityCurve.length =
      session.portfolio.equityCurve.length + rows.length := by
  induction rows generalizing session with
  | nil =>
      cases ran
      rfl
  | cons row rest ih =>
      obtain ⟨middle, stepped, later⟩ := run_cons_eq_ok_iff.mp ran
      rw [ih later, equityCurve_step stepped, List.length_append, List.length_singleton,
        List.length_cons]
      omega

/-- Point `i` of the equity curve is the equity after the rows up to it. -/
theorem equityCurve_getElem? {rows : List FeedRow} {session final : Session σ}
    (fresh : session.portfolio.equityCurve = [])
    (ran : engine.loop.run rows session = .ok final) {i : ℕ} {row : FeedRow}
    (found : rows[i]? = some row) :
    ∃ middle, engine.loop.run (rows.take (i + 1)) session = .ok middle ∧
      final.portfolio.equityCurve[i]? =
        some (row.bar.timestamp, middle.portfolio.totalEquity middle.latestPrices) := by
  have split : rows = rows.take i ++ ([row] ++ rows.drop (i + 1)) := by
    have inside := (List.getElem?_eq_some_iff.mp found).1
    have here := (List.getElem?_eq_some_iff.mp found).2
    rw [← here, List.singleton_append, ← List.drop_eq_getElem_cons inside,
      List.take_append_drop]
  have upTo : rows.take (i + 1) = rows.take i ++ [row] := by
    rw [List.take_add_one, found]
    rfl
  rw [split] at ran
  obtain ⟨before, early, rest⟩ := run_append_eq_ok_iff.mp ran
  obtain ⟨middle, single, late⟩ := run_append_eq_ok_iff.mp rest
  obtain ⟨_, stepped, done⟩ := run_cons_eq_ok_iff.mp single
  cases done
  refine ⟨middle, ?_, ?_⟩
  · rw [upTo]
    exact run_append_eq_ok_iff.mpr ⟨before, early, single⟩
  · have length := length_equityCurve early
    rw [fresh, List.length_nil, Nat.zero_add, List.length_take_of_le
      (Nat.le_of_lt (List.getElem?_eq_some_iff.mp found).1)] at length
    have logs : Logs (fun _ts => True) middle final :=
      logs_run (fun _row _member => True.intro) late
    obtain ⟨added, grown, _⟩ := logs.equityCurve
    rw [grown, equityCurve_step stepped, List.append_assoc,
      List.getElem?_append_right (Nat.le_of_eq length), length, Nat.sub_self]
    rfl

theorem iterBars_take (candles : List Domain.Bar) (count : ℕ) :
    iterBars (((iterBars candles).take count).map FeedRow.bar) = (iterBars candles).take count := by
  have rows : (((iterBars candles).take count).map FeedRow.bar).map FeedRow.ofBar =
      (iterBars candles).take count := by
    rw [List.map_map]
    refine (List.map_congr_left ?_).trans (List.map_id _)
    intro row member
    obtain ⟨bar, _, rfl⟩ := mem_iterBars.mp (List.mem_of_mem_take member)
    rfl
  have sorted := (iterBars_sorted candles).sublist (List.take_sublist count _)
  change sortRows ((((iterBars candles).take count).map FeedRow.bar).map FeedRow.ofBar) = _
  rw [rows]
  exact sortRows_sorted sorted

/-- The final equity is the initial cash and what each fill has gained by the last close of its
symbol. -/
theorem finalEquity_eq {product : ProductType}
    (created : BacktestPortfolio.new initialCash product = .ok engine.portfolio)
    {candles : List Domain.Bar} {report : BacktestReport κ}
    (ran : engine.run candles = .ok report)
    (quoted : ∀ fill ∈ report.fills, ∃ bar ∈ candles, bar.symbol = fill.symbol) :
    report.finalEquity = initialCash + (report.fills.map (gainOf
      (fun symbol => (lastClose (iterBars candles) symbol).getD 0))).sum := by
  obtain ⟨session, final, started, done, rfl⟩ := run_eq_ok_iff.mp ran
  have wholeRun : engine.runRows (iterBars candles) = .ok final := by
    unfold runRows
    rw [started]
    exact done
  have accounted := accounted_of_runRows created wholeRun
  refine accounted.explained.totalEquity_eq ?_
  intro fill member
  obtain ⟨bar, barMember, same⟩ := quoted fill member
  obtain ⟨price, known⟩ := lastClose_isSome (mem_iterBars.mpr ⟨bar, barMember, rfl⟩)
  rw [accounted.prices, ← same]
  change lastClose _ (FeedRow.ofBar bar).symbol =
    some ((lastClose _ (FeedRow.ofBar bar).symbol).getD 0)
  rw [known]
  rfl

/-- The final equity is the initial cash and what each fill has gained by the last close of its
symbol, and point `i` of the equity curve is the final equity of the run over the first
`i + 1` rows. -/
theorem report_explained {product : ProductType}
    (created : BacktestPortfolio.new initialCash product = .ok engine.portfolio)
    {candles : List Domain.Bar} {report : BacktestReport κ}
    (ran : engine.run candles = .ok report)
    (quoted : ∀ fill ∈ report.fills, ∃ bar ∈ candles, bar.symbol = fill.symbol) :
    report.finalEquity = initialCash + (report.fills.map (gainOf
        (fun symbol => (lastClose (iterBars candles) symbol).getD 0))).sum ∧
      report.equityCurve.length = candles.length ∧
      ∀ i row, (iterBars candles)[i]? = some row →
        ∃ earlier, engine.run (((iterBars candles).take (i + 1)).map FeedRow.bar) = .ok earlier ∧
          report.equityCurve[i]? = some (row.bar.timestamp, earlier.finalEquity) := by
  have equity := finalEquity_eq created ran quoted
  obtain ⟨session, final, started, done, rfl⟩ := run_eq_ok_iff.mp ran
  have fresh : session.portfolio.equityCurve = [] := by
    obtain ⟨_, _, rfl⟩ := start_eq_ok started
    change engine.portfolio.equityCurve = []
    unfold BacktestPortfolio.new at created
    split_ifs at created
    rw [← Except.ok.inj created]
  refine ⟨equity, ?_, ?_⟩
  · have length := length_equityCurve done
    rw [fresh, List.length_nil, Nat.zero_add] at length
    exact length.trans ((List.length_insertionSort _ _).trans (List.length_map _))
  · intro i row found
    obtain ⟨middle, early, point⟩ := equityCurve_getElem? fresh done found
    refine ⟨engine.report middle, ?_, point⟩
    exact run_eq_ok_iff.mpr ⟨session, middle, started, by rw [iterBars_take]; exact early, rfl⟩

end BacktestEngine

/-- Ten shares bought at 100 and sold at 102 a minute later. -/
theorem buyThenSell_explained :
    ∃ report, buyThenSell.run twoMinutes = .ok report ∧ report.equityCurve.length = 3 ∧
      report.finalEquity = 1000 + (report.fills.map (gainOf
        (fun symbol => (lastClose (iterBars twoMinutes) symbol).getD 0))).sum := by
  have returned : (buyThenSell.run twoMinutes).toOption.map (fun report =>
      report.fills.map TradeFill.symbol) = some ["INFY", "INFY"] := by
    decide +kernel
  obtain ⟨report, found, symbols⟩ := Option.map_eq_some_iff.mp returned
  have ran := toOption_eq_some_iff.mp found
  have created : BacktestPortfolio.new 1000 .mis = .ok buyThenSell.portfolio :=
    if_neg (by norm_num)
  obtain ⟨equity, points, _⟩ := BacktestEngine.report_explained created ran (by
    intro fill member
    have own : fill.symbol ∈ ["INFY", "INFY"] := symbols ▸ List.mem_map_of_mem member
    refine ⟨flatBar "INFY" 0 100, by decide +kernel, ?_⟩
    simp only [List.mem_cons, List.not_mem_nil, or_false, or_self] at own
    exact own.symm)
  exact ⟨report, ran, points, equity⟩

end TradingEngine.Backtest
