/-
`MAPullbackStrategy` as the engines drive it.

The engines hand over exact prices and timestamps in microseconds; the strategy reads the
close as a float.  It answers a bar with one market order at most, and by that order its
record of the holding in the bar's symbol already counts as traded.
-/

import TradingEngine.General.EventMachine
import TradingEngine.Strategies.Base
import TradingEngine.Strategies.MAPullback

namespace TradingEngine.MAPullback

open Domain Strategies
open Signals (Side)

variable {K : Type} [Field K] [LinearOrder K]

/-- The position fields of `_SymbolState` for a symbol, unless it is flat. -/
def holding (states : States K) (symbol : Ticker) : Option (Holding K) :=
  (states.get? symbol).bind SymbolState.position

/-- `entry_qty`, which is zero while the symbol is flat. -/
def entryQty (states : States K) (symbol : Ticker) : ℕ :=
  (holding states symbol).elim 0 Holding.entryQty

/-- `OrderIntent(...)` for the market orders of the strategy. -/
def createOrder (intent : Signals.OrderIntent) : Except EngineError Domain.OrderIntent :=
  if quantity_pos : 0 < intent.quantity then
    .ok
      { strategyId := intent.strategyId
        symbol := intent.symbol
        exchange := intent.exchange
        side := intent.side
        quantity := intent.quantity
        orderType := .market
        product := .cnc
        validity := "DAY"
        price := none
        triggerPrice := none
        shape :=
          { quantity_pos := Int.natCast_pos.mpr quantity_pos
            limit_priced := nofun
            stop_triggered := by rintro (limit | limit) <;> cases limit } }
  else
    .error (.orderValidation
      ("OrderIntent quantity must be positive, got " ++ toString intent.quantity))

namespace Config

variable (config : Config K)

/-- The bar as `on_bar` reads it, with its timestamp in microseconds. -/
def seen (float : ℚ → K) (bar : Domain.Bar) : Signals.Bar K :=
  { symbol := bar.symbol
    exchange := bar.exchange
    timestamp := { seconds := bar.timestamp }
    close := float bar.close }

/-- The configuration for timestamps in microseconds. -/
def inMicroseconds : Config K :=
  { config with maxHoldDays := config.maxHoldDays * 1000000 }

omit [Field K] [LinearOrder K] in
/-- Scaling the days instead of the timestamps compares the same whole days. -/
theorem daysHeld_inMicroseconds (later earlier : Datetime) :
    config.inMicroseconds.maxHoldDays ≤
        Timestamp.daysSince { seconds := later } { seconds := earlier } ↔
      config.maxHoldDays ≤ (later - earlier) / 86400000000 := by
  unfold inMicroseconds Timestamp.daysSince
  dsimp only
  omega

variable [FloorRing K]

/-- `on_bar` for the engines.  An entry divides the capital by the close. -/
def respond (float : ℚ → K) (bar : Domain.Bar) (states : States K) :
    Except EngineError (List Domain.OrderIntent × States K) :=
  let (intents, next) := config.inMicroseconds.onBar (seen float bar) states
  if float bar.close = 0 ∧ intents.any (fun intent => intent.side = .buy) = true then
    .error (.zeroDivision "float division by zero")
  else
    match intents.mapM createOrder with
    | .error raised => .error raised
    | .ok orders => .ok (orders, next)

/-- The strategy for the engines, whatever the type of their configurations. -/
def strategy (κ : Type) (float : ℚ → K) : Strategy (States K) κ :=
  { onStart := Strategy.noStart
    onBar := fun bar _context states => config.respond float bar states }

/-! ### What an answer does to the holdings -/

theorem onSymbolBar_cases (bar : Signals.Bar K) (state : SymbolState K) :
    ((config.onSymbolBar bar state).1 = [] ∧
        (config.onSymbolBar bar state).2.position = state.position) ∨
      (∃ held reason, state.position = some held ∧
        (config.onSymbolBar bar state).1 = [config.createIntent bar .sell held.entryQty reason] ∧
        (config.onSymbolBar bar state).2.position = none) ∨
      (state.position = none ∧
        (config.onSymbolBar bar state).1 =
          [config.createIntent bar .buy (config.holdingAt bar).entryQty "pullback_entry"] ∧
        (config.onSymbolBar bar state).2.position = some (config.holdingAt bar)) := by
  by_cases warmup : (config.observed bar state).closeHistory.length < config.trendMaPeriod
  · rw [config.onSymbolBar_of_warmup warmup]
    exact Or.inl ⟨rfl, rfl⟩
  · cases position : state.position with
    | some held =>
        rw [config.onSymbolBar_of_held warmup position]
        cases exit : config.exitReason bar held with
        | none => exact Or.inl ⟨rfl, rfl⟩
        | some reason => exact Or.inr (Or.inl ⟨held, reason, rfl, rfl, rfl⟩)
    | none =>
        rw [config.onSymbolBar_of_flat warmup position]
        split_ifs
        · exact Or.inr (Or.inr ⟨rfl, rfl, rfl⟩)
        · exact Or.inl ⟨rfl, rfl⟩

end Config

/-- The order for a bar, with the holdings before and after it: a sale is of what was held, and
the holding in the symbol changes by what is ordered. -/
structure Ordered (states next : States K) (bar : Domain.Bar) (intent : Domain.OrderIntent) :
    Prop where
  symbol : intent.symbol = bar.symbol
  exchange : intent.exchange = bar.exchange
  orderType : intent.orderType = .market
  price : intent.price = none
  triggerPrice : intent.triggerPrice = none
  others : ∀ symbol, symbol ≠ bar.symbol → holding next symbol = holding states symbol
  traded : (entryQty next bar.symbol : ℤ) =
    entryQty states bar.symbol +
      match intent.side with
      | .buy => intent.quantity
      | .sell => -intent.quantity
  covered : intent.side = .sell → intent.quantity = entryQty states bar.symbol
  entered : holding next bar.symbol ≠ none → 0 < entryQty next bar.symbol

omit [Field K] [LinearOrder K] in
theorem holding_insert (states : States K) (symbol : Ticker) (state : SymbolState K)
    (other : Ticker) :
    holding (states.insert symbol state) other =
      if other = symbol then state.position else holding states other := by
  unfold holding
  rw [OrderedDict.get?_insert]
  split_ifs <;> rfl

theorem createOrder_eq_ok {intent : Signals.OrderIntent} {order : Domain.OrderIntent}
    (created : createOrder intent = .ok order) :
    order.symbol = intent.symbol ∧ order.exchange = intent.exchange ∧ order.side = intent.side ∧
      order.quantity = intent.quantity ∧ order.orderType = .market ∧ order.price = none ∧
      order.triggerPrice = none := by
  unfold createOrder at created
  split_ifs at created
  cases created
  exact ⟨rfl, rfl, rfl, rfl, rfl, rfl, rfl⟩

theorem createOrders_eq_ok {intents : List Signals.OrderIntent}
    {orders : List Domain.OrderIntent} (created : intents.mapM createOrder = .ok orders) :
    (intents = [] → orders = []) ∧
      ∀ intent, intents = [intent] →
        ∃ order, orders = [order] ∧ createOrder intent = .ok order := by
  constructor
  · rintro rfl
    cases created
    rfl
  · rintro intent rfl
    rw [List.mapM_cons, List.mapM_nil] at created
    cases made : createOrder intent with
    | error raised =>
        rw [made] at created
        cases created
    | ok order =>
        rw [made] at created
        cases created
        exact ⟨order, rfl, rfl⟩

omit [Field K] [LinearOrder K] in
/-- An order for a bar that leaves this state for its symbol: a sale of the holding, or a
purchase that opens one. -/
theorem ordered_of_createOrder {states : States K} {bar : Domain.Bar} {state : SymbolState K}
    {intent : Signals.OrderIntent} {order : Domain.OrderIntent}
    (created : createOrder intent = .ok order) (symbol : intent.symbol = bar.symbol)
    (exchange : intent.exchange = bar.exchange)
    (moved :
      (intent.side = .sell ∧ intent.quantity = entryQty states bar.symbol ∧
        state.position = none) ∨
      (intent.side = .buy ∧ holding states bar.symbol = none ∧
        ∃ held, state.position = some held ∧ held.entryQty = intent.quantity)) :
    Ordered states (states.insert bar.symbol state) bar order := by
  obtain ⟨orderSymbol, orderExchange, side, quantity, orderType, price, triggerPrice⟩ :=
    createOrder_eq_ok created
  have held : holding (states.insert bar.symbol state) bar.symbol = state.position := by
    rw [holding_insert, if_pos rfl]
  have others : ∀ other, other ≠ bar.symbol →
      holding (states.insert bar.symbol state) other = holding states other := by
    intro other different
    rw [holding_insert, if_neg different]
  rcases moved with ⟨sell, sold, flat⟩ | ⟨buy, flat, opened, position, bought⟩
  · exact
      { symbol := orderSymbol.trans symbol
        exchange := orderExchange.trans exchange
        orderType := orderType
        price := price
        triggerPrice := triggerPrice
        others := others
        traded := by
          rw [side, sell, quantity, sold]
          unfold entryQty
          rw [held, flat]
          exact (add_neg_cancel _).symm
        covered := fun _sell => quantity.trans (congrArg _ sold)
        entered := fun isOpen => absurd (held.trans flat) isOpen }
  · exact
      { symbol := orderSymbol.trans symbol
        exchange := orderExchange.trans exchange
        orderType := orderType
        price := price
        triggerPrice := triggerPrice
        others := others
        traded := by
          rw [side, buy, quantity, ← bought]
          unfold entryQty
          rw [held, position, flat]
          exact (zero_add _).symm
        covered := by
          rw [side, buy]
          nofun
        entered := by
          intro _isOpen
          have positive := order.shape.quantity_pos
          unfold entryQty
          rw [held, position]
          change 0 < opened.entryQty
          omega }

variable [FloorRing K]

theorem Config.respond_eq_ok {config : Config K} {float : ℚ → K} {bar : Domain.Bar}
    {states next : States K} {orders : List Domain.OrderIntent}
    (answered : config.respond float bar states = .ok (orders, next)) :
    let answer := config.inMicroseconds.onSymbolBar (seen float bar)
      ((states.get? bar.symbol).getD SymbolState.start)
    answer.1.mapM createOrder = .ok orders ∧ next = states.insert bar.symbol answer.2 := by
  unfold respond Config.onBar at answered
  dsimp only at answered ⊢
  split_ifs at answered
  split at answered
  · cases answered
  · rename_i created mapped
    cases answered
    exact ⟨mapped, rfl⟩

theorem Config.respond_cases {config : Config K} {float : ℚ → K} {bar : Domain.Bar}
    {states next : States K} {orders : List Domain.OrderIntent}
    (answered : config.respond float bar states = .ok (orders, next)) :
    (orders = [] ∧ ∀ symbol, holding next symbol = holding states symbol) ∨
      ∃ intent, orders = [intent] ∧ Ordered states next bar intent := by
  obtain ⟨mapped, rfl⟩ := respond_eq_ok answered
  obtain ⟨nothing, single⟩ := createOrders_eq_ok mapped
  have stored : ((states.get? bar.symbol).getD SymbolState.start).position =
      holding states bar.symbol := by
    unfold holding
    cases states.get? bar.symbol <;> rfl
  rcases config.inMicroseconds.onSymbolBar_cases (seen float bar)
      ((states.get? bar.symbol).getD SymbolState.start) with
    ⟨quiet, position⟩ | ⟨held, reason, position, sale, flat⟩ | ⟨position, purchase, opened⟩
  · refine Or.inl ⟨nothing quiet, ?_⟩
    intro symbol
    rw [holding_insert, position, stored]
    split_ifs with same
    · rw [same]
    · rfl
  · obtain ⟨order, rfl, created⟩ := single _ sale
    have sold : held.entryQty = entryQty states bar.symbol := by
      rw [entryQty, ← stored, position]
      rfl
    exact Or.inr ⟨order, rfl, ordered_of_createOrder created rfl rfl (Or.inl ⟨rfl, sold, flat⟩)⟩
  · obtain ⟨order, rfl, created⟩ := single _ purchase
    exact Or.inr ⟨order, rfl, ordered_of_createOrder created rfl rfl
      (Or.inr ⟨rfl, stored.symm.trans position, _, opened, rfl⟩)⟩

/-! ### One call after another -/

namespace Config

variable (config : Config K) (float : ℚ → K)

/-- `on_bar` on the state of the bar's symbol.  A call that raises has observed the close by
then and leaves the position. -/
def onSymbolCall (bar : Domain.Bar) (state : SymbolState K) :
    Except EngineError (List Domain.OrderIntent) × SymbolState K :=
  let (intents, next) := config.inMicroseconds.onSymbolBar (seen float bar) state
  let orders :=
    if float bar.close = 0 ∧ intents.any (fun intent => intent.side = .buy) = true then
      .error (.zeroDivision "float division by zero")
    else intents.mapM createOrder
  (orders, if orders.isOk then next else { next with position := state.position })

def machine : EventMachine Domain.Bar (SymbolState K)
    (Except EngineError (List Domain.OrderIntent)) :=
  { start := SymbolState.start
    step := config.onSymbolCall float }

/-- The strategy on the bars of any symbols. -/
def sweep : EventMachine Domain.Bar (States K) (Except EngineError (List Domain.OrderIntent)) :=
  (config.machine float).keyed Domain.Bar.symbol

variable {config float} {bar : Domain.Bar}

theorem respond_eq_sweep (states : States K) :
    config.respond float bar states =
      ((config.sweep float).step bar states).1.map
        (fun orders => (orders, ((config.sweep float).step bar states).2)) := by
  change config.respond float bar states = Except.map
    (fun orders => (orders, states.insert bar.symbol (config.onSymbolCall float bar
      ((states.get? bar.symbol).getD SymbolState.start)).2))
    (config.onSymbolCall float bar ((states.get? bar.symbol).getD SymbolState.start)).1
  have symbol : (seen float bar).symbol = bar.symbol := rfl
  unfold respond onBar onSymbolCall
  dsimp only
  rw [symbol]
  generalize config.inMicroseconds.onSymbolBar (seen float bar)
    ((states.get? bar.symbol).getD SymbolState.start) = answer
  by_cases worthless :
      float bar.close = 0 ∧ answer.1.any (fun intent => intent.side = .buy) = true
  · rw [if_pos worthless, if_pos worthless]
    rfl
  · rw [if_neg worthless, if_neg worthless]
    cases answer.1.mapM createOrder <;> rfl

theorem symbol_of_onSymbolCall {state : SymbolState K} {orders : List Domain.OrderIntent}
    (answered : (config.onSymbolCall float bar state).1 = .ok orders) :
    ∀ order ∈ orders, order.symbol = bar.symbol := by
  unfold onSymbolCall at answered
  dsimp only at answered
  split_ifs at answered
  obtain ⟨nothing, single⟩ := createOrders_eq_ok answered
  rcases config.inMicroseconds.onSymbolBar_cases (seen float bar) state with
    ⟨quiet, _⟩ | ⟨_, _, _, sale, _⟩ | ⟨_, purchase, _⟩
  · rw [nothing quiet]
    exact fun order member => absurd member List.not_mem_nil
  · obtain ⟨order, rfl, created⟩ := single _ sale
    exact List.forall_mem_singleton.mpr (createOrder_eq_ok created).1
  · obtain ⟨order, rfl, created⟩ := single _ purchase
    exact List.forall_mem_singleton.mpr (createOrder_eq_ok created).1

end Config

end TradingEngine.MAPullback
