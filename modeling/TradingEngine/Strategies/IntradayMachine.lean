/-
The common law of the intraday strategies.

`Turn` says what one bar may do to the position of a symbol: nothing, one exit or one entry.
`Move` adds the limits of the configuration: the number of entries of the day, the entry
window and the square-off time.  A strategy whose bars are moves trades every day in the
way that `Disciplined` describes.
-/

import TradingEngine.General.DayRecords
import TradingEngine.General.RoundTrips
import TradingEngine.Strategies.Intraday

namespace TradingEngine.Intraday

open Domain
open PairsTrading (barDate barTime)
open Signals (Side)

/-! ### Entries and exits -/

/-- How the intents of a strategy are told apart. -/
structure Style where
  quantity : ℤ
  entryReasons : List String

namespace Style

variable (style : Style)

def isEntry (intent : Intent) : Bool :=
  intent.reason ∈ style.entryReasons

/-- An exit of the other side and of the same quantity. -/
def closes (entry exit : Intent) : Bool :=
  !style.isEntry exit && exit.side ≠ entry.side && exit.quantity = entry.quantity

structure Enters (bar : Domain.Bar) (direction : Direction) (intent : Intent) : Prop where
  symbol : intent.symbol = bar.symbol
  side : intent.side = direction.entrySide
  quantity : intent.quantity = style.quantity
  reason : style.isEntry intent = true

structure Exits (bar : Domain.Bar) (direction : Direction) (intent : Intent) : Prop where
  symbol : intent.symbol = bar.symbol
  side : intent.side = direction.exitSide
  quantity : intent.quantity = style.quantity
  reason : style.isEntry intent = false

variable {style} {bar : Domain.Bar} {terms : OrderTerms} {reason : String}

theorem enters_intent (quantity : terms.quantity = style.quantity) (direction : Direction)
    (member : reason ∈ style.entryReasons) :
    style.Enters bar direction (terms.intent bar direction.entrySide reason) :=
  { symbol := rfl
    side := rfl
    quantity := quantity
    reason := decide_eq_true member }

theorem exits_intent (quantity : terms.quantity = style.quantity) (direction : Direction)
    (other : reason ∉ style.entryReasons) :
    style.Exits bar direction (terms.intent bar direction.exitSide reason) :=
  { symbol := rfl
    side := rfl
    quantity := quantity
    reason := decide_eq_false other }

theorem enters_of_either {reasons : Direction → String}
    (quantity : terms.quantity = style.quantity)
    (either : style.entryReasons = [reasons .long, reasons .short]) (direction : Direction) :
    style.Enters bar direction (terms.intent bar direction.entrySide (reasons direction)) := by
  apply enters_intent quantity
  rw [either]
  cases direction with
  | long => exact List.mem_cons_self
  | short => exact List.mem_cons_of_mem _ List.mem_cons_self

theorem exits_of_map {direction : Direction} {found : Option String} {intent : Intent}
    (quantity : terms.quantity = style.quantity)
    (others : ∀ reason, found = some reason → reason ∉ style.entryReasons)
    (exiting : found.map (terms.intent bar direction.exitSide) = some intent) :
    style.Exits bar direction intent := by
  obtain ⟨reason, chosen, rfl⟩ := Option.map_eq_some_iff.mp exiting
  exact exits_intent quantity direction (others reason chosen)

end Style

variable {style : Style} {bar : Domain.Bar}

/-- What one bar does to the position, with the intents that it is answered with. -/
inductive Turn (style : Style) (bar : Domain.Bar) :
    Option Direction → List Intent → Option Direction → Prop where
  | quiet (held : Option Direction) : Turn style bar held [] held
  | exit (direction : Direction) (intent : Intent) (exits : style.Exits bar direction intent) :
      Turn style bar (some direction) [intent] none
  | enter (direction : Direction) (intent : Intent)
      (enters : style.Enters bar direction intent) :
      Turn style bar none [intent] (some direction)

/-- The position and the number of entries of one day. -/
structure Standing where
  held : Option Direction
  trades : ℕ

def Standing.empty : Standing :=
  { held := none
    trades := 0 }

structure Limits where
  maxTrades : ℕ
  earliest : ℤ
  latest : ℤ
  squareOff : ℤ
  latest_lt_squareOff : latest < squareOff

variable {limits : Limits}

/-- A turn within the limits. -/
inductive Move (style : Style) (limits : Limits) (bar : Domain.Bar) :
    Standing → List Intent → Standing → Prop where
  | quiet (standing : Standing) (early : limits.squareOff ≤ barTime bar → standing.held = none) :
      Move style limits bar standing [] standing
  | exit (direction : Direction) (trades : ℕ) (intent : Intent)
      (exits : style.Exits bar direction intent) :
      Move style limits bar ⟨some direction, trades⟩ [intent] ⟨none, trades⟩
  | enter (direction : Direction) (trades : ℕ) (intent : Intent)
      (enters : style.Enters bar direction intent) (spare : trades < limits.maxTrades)
      (fromEarliest : limits.earliest ≤ barTime bar)
      (untilLatest : barTime bar ≤ limits.latest) :
      Move style limits bar ⟨none, trades⟩ [intent] ⟨some direction, trades + 1⟩

theorem Move.turn {before after : Standing} {answer : List Intent}
    (move : Move style limits bar before answer after) :
    Turn style bar before.held answer after.held := by
  cases move with
  | quiet _ early => exact .quiet _
  | exit direction _ intent exits => exact .exit direction intent exits
  | enter direction _ intent enters spare fromEarliest untilLatest =>
      exact .enter direction intent enters

theorem move_exitOrEnter {P : Type} (directionOf : P → Direction) {position : Option P}
    (trades : ℕ) {exit : P → Option Intent} {entry : Option (Intent × P)}
    (exits : ∀ held intent, position = some held → exit held = some intent →
      style.Exits bar (directionOf held) intent)
    (squareOff : ∀ held, limits.squareOff ≤ barTime bar → exit held ≠ none)
    (enters : ∀ intent opened, entry = some (intent, opened) →
      style.Enters bar (directionOf opened) intent ∧ trades < limits.maxTrades ∧
        limits.earliest ≤ barTime bar ∧ barTime bar ≤ limits.latest) :
    Move style limits bar ⟨position.map directionOf, trades⟩
      (exitOrEnter position exit entry).intents
      ⟨((exitOrEnter position exit entry).position position).map directionOf,
        (exitOrEnter position exit entry).tradesTaken trades⟩ := by
  rcases exitOrEnter_cases position exit entry with ⟨held, intent, rfl, exiting, action⟩ |
    ⟨held, rfl, kept, action⟩ | ⟨intent, opened, rfl, entering, action⟩ | ⟨rfl, _, action⟩
  · rw [action]
    exact .exit _ _ intent (exits held intent rfl exiting)
  · rw [action]
    exact .quiet _ (fun late => absurd kept (squareOff held late))
  · rw [action]
    obtain ⟨entersThere, spare, fromEarliest, untilLatest⟩ := enters intent opened entering
    exact .enter _ _ intent entersThere spare fromEarliest untilLatest
  · rw [action]
    exact .quiet _ (fun _ => rfl)

/-! ### Machines -/

/-- A strategy on the bars of one symbol, with what its state says of the position. -/
structure IntradayMachine (σ : Type) where
  machine : EventMachine Domain.Bar σ (List Intent)
  style : Style
  quantity_pos : 0 < style.quantity
  day : σ → Option ℤ
  held : σ → Option Direction
  start_day : day machine.start = none
  start_held : held machine.start = none
  dated : ∀ bar state, day (machine.advance state bar) = some (barDate bar)
  turn : ∀ bar state, Turn style bar (if day state = some (barDate bar) then held state else none)
    (machine.step bar state).1 (held (machine.advance state bar))

/-- A strategy that trades within limits. -/
structure LimitedMachine (σ : Type) where
  machine : EventMachine Domain.Bar σ (List Intent)
  style : Style
  quantity_pos : 0 < style.quantity
  limits : Limits
  day : σ → Option ℤ
  standing : σ → Standing
  start_day : day machine.start = none
  start_standing : standing machine.start = .empty
  dated : ∀ bar state, day (machine.advance state bar) = some (barDate bar)
  move : ∀ bar state, Move style limits bar
    (if day state = some (barDate bar) then standing state else .empty)
    (machine.step bar state).1 (standing (machine.advance state bar))

variable {σ : Type}

def LimitedMachine.intraday (limited : LimitedMachine σ) : IntradayMachine σ :=
  { machine := limited.machine
    style := limited.style
    quantity_pos := limited.quantity_pos
    day := limited.day
    held := fun state => (limited.standing state).held
    start_day := limited.start_day
    start_held := congrArg Standing.held limited.start_standing
    dated := limited.dated
    turn := fun bar state => by
      have turned := (limited.move bar state).turn
      rwa [apply_ite Standing.held] at turned }

/-! ### Days -/

def dayRecord (calls : List (Domain.Bar × List Intent)) (symbol : String) (d : ℤ) :
    List (Domain.Bar × List Intent) :=
  DayRecords.ofDay barDate d (calls.filter (fun call => call.1.symbol = symbol))

theorem shown_dayRecord {machine : EventMachine Domain.Bar σ (List Intent)}
    {current : σ → Option ℤ} {Shows : σ → List (Domain.Bar × List Intent) → Prop}
    (shown : DayRecords.Shown machine barDate current Shows) {bars : List Domain.Bar}
    (ordered : bars.Pairwise (fun earlier later => earlier.timestamp ≤ later.timestamp))
    (symbol : String) (d : ℤ) :
    dayRecord ((machine.keyed Domain.Bar.symbol).calls bars) symbol d = [] ∨
      ∃ state, Shows state
        (dayRecord ((machine.keyed Domain.Bar.symbol).calls bars) symbol d) := by
  have days : (bars.filter (fun bar => bar.symbol = symbol)).Pairwise
      (fun earlier later => barDate earlier ≤ barDate later) :=
    (ordered.filter _).imp (fun before => Int.ediv_le_ediv (by decide) before)
  rw [dayRecord, EventMachine.filter_calls_keyed]
  exact shown.ofDay days d

def intentsOf (record : List (Domain.Bar × List Intent)) : List Intent :=
  record.flatMap Prod.snd

theorem intentsOf_concat (record : List (Domain.Bar × List Intent)) (bar : Domain.Bar)
    (answer : List Intent) :
    intentsOf (record ++ [(bar, answer)]) = intentsOf record ++ answer := by
  rw [intentsOf, List.flatMap_append, List.flatMap_singleton]
  rfl

/-- How a strategy trades one symbol on one day. -/
structure Disciplined (style : Style) (limits : Limits)
    (record : List (Domain.Bar × List Intent)) : Prop where
  single : ∀ call ∈ record, call.2.length ≤ 1
  symbol : ∀ call ∈ record, ∀ intent ∈ call.2, intent.symbol = call.1.symbol
  alternate : RoundTrips.Alternate style.isEntry style.closes (intentsOf record)
  entries_le : (intentsOf record).countP style.isEntry ≤ limits.maxTrades
  windowed : ∀ call ∈ record, ∀ intent ∈ call.2, style.isEntry intent = true →
    limits.earliest ≤ barTime call.1 ∧ barTime call.1 ≤ limits.latest
  squaredOff : ∀ earlier bar answer, earlier ++ [(bar, answer)] <+: record →
    limits.squareOff ≤ barTime bar →
      ((intentsOf (earlier ++ [(bar, answer)])).map Intent.signed).sum = 0

theorem signed_of_closes {entry exit : Intent} (closing : style.closes entry exit = true) :
    exit.signed = -entry.signed := by
  obtain ⟨⟨_, sides⟩, quantities⟩ : (_ ∧ exit.side ≠ entry.side) ∧
      exit.quantity = entry.quantity := by
    simpa [Style.closes] using closing
  unfold Intent.signed signedQuantity
  rw [quantities]
  cases entering : entry.side with
  | buy =>
      cases exiting : exit.side with
      | buy => exact absurd (exiting.trans entering.symm) sides
      | sell => rfl
  | sell =>
      cases exiting : exit.side with
      | buy => exact (neg_neg _).symm
      | sell => exact absurd (exiting.trans entering.symm) sides

/-- The intents of the day up to now alternate and leave what the standing holds. -/
def Standing.Balances (style : Style) (standing : Standing) (intents : List Intent) : Prop :=
  ∃ held, RoundTrips.heldAfter style.isEntry style.closes intents = some held ∧
    held.map (fun intent => (intent.side, intent.quantity)) =
      standing.held.map (fun direction => (direction.entrySide, style.quantity))

theorem Standing.Balances.sum_eq_zero {standing : Standing} {intents : List Intent}
    (balances : standing.Balances style intents) (flat : standing.held = none) :
    (intents.map Intent.signed).sum = 0 := by
  obtain ⟨held, after, same⟩ := balances
  rw [flat, Option.map_none, Option.map_eq_none_iff] at same
  rw [RoundTrips.sum_of_heldAfter Intent.signed (fun _ _ => signed_of_closes) after, same]
  rfl

theorem Style.Exits.closes {direction : Direction} {entry exit : Intent}
    (exits : style.Exits bar direction exit) (side : entry.side = direction.entrySide)
    (quantity : entry.quantity = style.quantity) : style.closes entry exit = true := by
  have sides : exit.side ≠ entry.side := by
    rw [exits.side, side]
    cases direction with
    | long => exact Side.noConfusion
    | short => exact Side.noConfusion
  simp [Style.closes, exits.reason, sides, exits.quantity, quantity]

namespace Move

variable {before after : Standing} {answer : List Intent}

theorem balances (move : Move style limits bar before answer after) {intents : List Intent}
    (balanced : before.Balances style intents) :
    after.Balances style (intents ++ answer) := by
  cases move with
  | quiet _ early =>
      rw [List.append_nil]
      exact balanced
  | exit direction trades intent exits =>
      obtain ⟨held, reached, same⟩ := balanced
      obtain ⟨entry, rfl, matched⟩ := Option.map_eq_some_iff.mp same
      obtain ⟨side, quantity⟩ := Prod.mk.inj matched
      exact ⟨none, RoundTrips.heldAfter_close reached (exits.closes side quantity), rfl⟩
  | enter direction trades intent enters spare fromEarliest untilLatest =>
      obtain ⟨held, reached, same⟩ := balanced
      cases Option.map_eq_none_iff.mp same
      refine ⟨some intent, RoundTrips.heldAfter_open reached enters.reason, ?_⟩
      exact congrArg some (Prod.ext enters.side enters.quantity)

theorem length_le (move : Move style limits bar before answer after) : answer.length ≤ 1 := by
  cases move with
  | quiet _ early => exact Nat.zero_le 1
  | exit direction trades intent exits => exact le_refl 1
  | enter direction trades intent enters spare fromEarliest untilLatest => exact le_refl 1

theorem symbol (move : Move style limits bar before answer after) :
    ∀ intent ∈ answer, intent.symbol = bar.symbol := by
  intro traded member
  cases move with
  | quiet _ early => exact absurd member List.not_mem_nil
  | exit direction trades intent exits =>
      rw [List.mem_singleton.mp member]
      exact exits.symbol
  | enter direction trades intent enters spare fromEarliest untilLatest =>
      rw [List.mem_singleton.mp member]
      exact enters.symbol

theorem windowed (move : Move style limits bar before answer after) :
    ∀ intent ∈ answer, style.isEntry intent = true →
      limits.earliest ≤ barTime bar ∧ barTime bar ≤ limits.latest := by
  intro traded member entry
  cases move with
  | quiet _ early => exact absurd member List.not_mem_nil
  | exit direction trades intent exits =>
      rw [List.mem_singleton.mp member, exits.reason] at entry
      cases entry
  | enter direction trades intent enters spare fromEarliest untilLatest =>
      exact ⟨fromEarliest, untilLatest⟩

theorem flat_of_late (move : Move style limits bar before answer after)
    (late : limits.squareOff ≤ barTime bar) : after.held = none := by
  cases move with
  | quiet _ early => exact early late
  | exit direction trades intent exits => rfl
  | enter direction trades intent enters spare fromEarliest untilLatest =>
      exact absurd (lt_of_le_of_lt untilLatest limits.latest_lt_squareOff) (not_lt.mpr late)

theorem trades (move : Move style limits bar before answer after)
    (within : before.trades ≤ limits.maxTrades) :
    after.trades = before.trades + answer.countP style.isEntry ∧
      after.trades ≤ limits.maxTrades := by
  cases move with
  | quiet _ early => exact ⟨rfl, within⟩
  | exit direction trades intent exits =>
      rw [List.countP_singleton, exits.reason]
      exact ⟨rfl, within⟩
  | enter direction trades intent enters spare fromEarliest untilLatest =>
      rw [List.countP_singleton, enters.reason]
      exact ⟨rfl, spare⟩

end Move

/-- What a standing shows of the day up to now. -/
structure Standing.Shows (style : Style) (limits : Limits) (standing : Standing)
    (record : List (Domain.Bar × List Intent)) : Prop where
  disciplined : Disciplined style limits record
  trades : (intentsOf record).countP style.isEntry = standing.trades
  balances : standing.Balances style (intentsOf record)

theorem Standing.empty_shows (style : Style) (limits : Limits) :
    Standing.empty.Shows style limits [] :=
  { disciplined :=
      { single := fun _ member => absurd member List.not_mem_nil
        symbol := fun _ member => absurd member List.not_mem_nil
        alternate := rfl
        entries_le := Nat.zero_le _
        windowed := fun _ member => absurd member List.not_mem_nil
        squaredOff := fun earlier _ _ before =>
          absurd (List.prefix_nil.mp before) (List.append_ne_nil_of_right_ne_nil earlier
            (List.cons_ne_nil _ _)) }
    trades := rfl
    balances := ⟨none, rfl, rfl⟩ }

theorem Standing.Shows.move {before after : Standing} {answer : List Intent}
    {record : List (Domain.Bar × List Intent)} (shows_ : before.Shows style limits record)
    (move : Move style limits bar before answer after) :
    after.Shows style limits (record ++ [(bar, answer)]) := by
  have disciplined := shows_.disciplined
  have within : before.trades ≤ limits.maxTrades := shows_.trades ▸ disciplined.entries_le
  obtain ⟨counted, within'⟩ := move.trades within
  have balances : after.Balances style (intentsOf (record ++ [(bar, answer)])) := by
    rw [intentsOf_concat]
    exact move.balances shows_.balances
  have trades : (intentsOf (record ++ [(bar, answer)])).countP style.isEntry = after.trades := by
    rw [intentsOf_concat, List.countP_append, shows_.trades, counted]
  refine
    { disciplined :=
        { single := ?_
          symbol := ?_
          alternate := ?_
          entries_le := trades.trans_le within'
          windowed := ?_
          squaredOff := ?_ }
      trades := trades
      balances := balances }
  · exact List.forall_mem_append.mpr
      ⟨disciplined.single, List.forall_mem_singleton.mpr move.length_le⟩
  · exact List.forall_mem_append.mpr
      ⟨disciplined.symbol, List.forall_mem_singleton.mpr move.symbol⟩
  · obtain ⟨held, reached, _⟩ := balances
    exact Option.isSome_of_eq_some reached
  · exact List.forall_mem_append.mpr
      ⟨disciplined.windowed, List.forall_mem_singleton.mpr move.windowed⟩
  · intro earlier last lastAnswer isPrefix late
    rcases List.prefix_concat_iff.mp isPrefix with same | inside
    · obtain ⟨_, lastSame⟩ := List.append_inj' same rfl
      cases lastSame
      rw [same]
      exact balances.sum_eq_zero (move.flat_of_late late)
    · exact disciplined.squaredOff earlier last lastAnswer inside late

namespace LimitedMachine

variable (limited : LimitedMachine σ)

theorem shown : DayRecords.Shown limited.machine barDate limited.day
    (fun state => (limited.standing state).Shows limited.style limited.limits) :=
  { start := limited.start_day
    dated := fun bar state => limited.dated bar state
    opens := by
      intro bar state other
      have move := limited.move bar state
      rw [if_neg other] at move
      exact (Standing.empty_shows limited.style limited.limits).move move
    extends_ := by
      intro bar state record same shows_
      have move := limited.move bar state
      rw [if_pos same] at move
      exact shows_.move move }

/-- Fed with the bars of any symbols in the order of their days, the strategy trades every
symbol with discipline on every day. -/
theorem disciplined {bars : List Domain.Bar}
    (ordered : bars.Pairwise (fun earlier later => earlier.timestamp ≤ later.timestamp))
    (symbol : String) (d : ℤ) :
    Disciplined limited.style limited.limits
      (dayRecord ((limited.machine.keyed Domain.Bar.symbol).calls bars) symbol d) := by
  rcases shown_dayRecord limited.shown ordered symbol d with none_ | ⟨state, shows_⟩
  · rw [none_]
    exact (Standing.empty_shows limited.style limited.limits).disciplined
  · exact shows_.disciplined

end LimitedMachine

end TradingEngine.Intraday
