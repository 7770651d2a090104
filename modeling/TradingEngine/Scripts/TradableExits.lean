/-
Exit prices of the squeeze trader against the bar they are dated by.

A stop is booked at the stop price on any bar that reaches it, also below one that
opened under it.  The other exits are filled at the next open but carry the date of the
bar that decided them.
-/

import Mathlib.Data.Rat.Sqrt
import TradingEngine.Scripts.AppendStability
import TradingEngine.Scripts.BBSqueezeTrader

namespace TradingEngine.BBSqueezeTrader

open DecimalRounding

variable {K : Type} [Field K] [LinearOrder K] [FloorRing K]

def InRange (bar : Bar K) (price : K) : Prop :=
  bar.low ≤ price ∧ price ≤ bar.high

/-- Every reported exit price is a price of the bar of its exit date. -/
def ExitsTradable (df : Frame K) (result : ReplayResult K) : Prop :=
  ∀ trade ∈ result.closedTrades, ∀ bar ∈ df.bars, bar.timestamp.date = trade.exitDate →
    InRange bar trade.exitPrice

namespace Params

variable (sqrt : K → K) (params : Params K)

/-- What an exit at a bar would be booked at is a price of that bar: the stop where the
bar reaches it, else the fill where another exit is due. -/
def ExitInRange (bar : Bar K) (fillPrice : K) (reading : Reading K) (held : Position K) : Prop :=
  (bar.low ≤ held.stopPrice → InRange bar (roundTo 2 held.stopPrice)) ∧
  (held.stopPrice < bar.low →
    bar.close < reading.middle ∨ params.maxHoldDays ≤ bar.timestamp.daysSince held.entryDate →
      InRange bar (roundTo 2 fillPrice))

theorem exitInRange_iff (bar : Bar K) (fillPrice : K) (reading : Reading K)
    (held : Position K) :
    params.ExitInRange bar fillPrice reading held ↔
      ∀ exit, params.exitAt bar fillPrice reading held = some exit →
        InRange bar (roundTo 2 exit.1) := by
  unfold ExitInRange exitAt
  split_ifs with stopped below late
  · constructor
    · intro inRange exit booked
      cases booked
      exact inRange.1 stopped
    · intro inRange
      exact ⟨fun _stopped => inRange _ rfl, fun above => absurd stopped (not_le.mpr above)⟩
  · constructor
    · intro inRange exit booked
      cases booked
      exact inRange.2 (not_le.mp stopped) (Or.inl below)
    · intro inRange
      exact ⟨fun reached => absurd reached stopped, fun _above _due => inRange _ rfl⟩
  · constructor
    · intro inRange exit booked
      cases booked
      exact inRange.2 (not_le.mp stopped) (Or.inr late)
    · intro inRange
      exact ⟨fun reached => absurd reached stopped, fun _above _due => inRange _ rfl⟩
  · constructor
    · intro _inRange
      exact nofun
    · intro _none
      exact ⟨fun reached => absurd reached stopped,
        fun _above due => absurd due (not_or.mpr ⟨below, late⟩)⟩

def exitTrade (bar : Bar K) (fillPrice : K) (reading : Option (Reading K))
    (position : Option (Position K)) : Option (Trade K) :=
  match reading, position with
  | some reading, some held =>
      if held.isLive then
        (params.exitAt bar fillPrice reading held).map
          (fun exit => held.tradeAt exit.1 bar.timestamp exit.2)
      else none
  | _, _ => none

theorem closedTrades_applyAll (today : Date) (terms : ExitTerms K) (bar : Bar K)
    (fill : K × Timestamp) (signalDate : Date) (reading : Option (Reading K)) (book : Book K) :
    (book.applyAll today terms fill signalDate
        (params.actions bar fill reading book.position)).closedTrades =
      book.closedTrades ++ (params.exitTrade bar fill.1 reading book.position).toList := by
  cases reading with
  | none => simp [actions, exitTrade, Book.applyAll]
  | some reading =>
      cases held : book.position with
      | none =>
          unfold actions exitTrade
          dsimp only
          split_ifs
          · simp [Book.applyAll, Book.apply, Book.enterPosition]
          · simp [Book.applyAll]
      | some position =>
          rw [actions_of_held]
          unfold exitTrade
          dsimp only
          cases params.exitAt bar fill.1 reading position with
          | none => simp [Book.applyAll]
          | some exit =>
              change (book.closeTrade today exit.1 bar.timestamp exit.2).closedTrades = _
              rw [Book.closeTrade_of_held held]
              by_cases live : position.isLive
              · rw [if_pos live, if_pos live]
                rfl
              · rw [if_neg live, if_neg live]
                exact (List.append_nil _).symm

theorem tradesDecidedAt_eq {df : Frame K} {i : ℕ} {bar : Bar K} (found : df.bars[i]? = some bar) :
    (params.rules sqrt).tradesDecidedAt df i =
      (params.exitTrade bar (df.fill i bar).1 (params.readingAt sqrt df i)
        ((params.rules sqrt).stateAfter df i).book.position).toList := by
  unfold ReplayRules.tradesDecidedAt
  rw [ReplayRules.stateAfter_succ, ReplayRules.stepAt_of_getElem? found]
  have booked := params.closedTrades_applyAll df.todayDate (params.rules sqrt).terms bar
    (df.fill i bar) bar.timestamp.date (params.readingAt sqrt df i)
    ((params.rules sqrt).stateAfter df i).book
  change (Book.applyAll _ _ _ _ _ _).closedTrades.drop _ = _
  rw [ReplayRules.decide]
  change List.drop _ ((Book.applyAll _ _ _ _ _
    (params.actions bar (df.fill i bar) (params.readingAt sqrt df i) _)).closedTrades) = _
  rw [booked, List.drop_left]

theorem mem_closedTrades_iff {df : Frame K} {trade : Trade K} :
    trade ∈ (replaySymbol sqrt df params).closedTrades ↔
      ∃ i bar, df.bars[i]? = some bar ∧
        params.exitTrade bar (df.fill i bar).1 (params.readingAt sqrt df i)
          ((params.rules sqrt).stateAfter df i).book.position = some trade := by
  change trade ∈ ((params.rules sqrt).stateAfter df df.length).book.closedTrades ↔ _
  rw [ReplayRules.closedTrades_eq_flatMap, List.mem_flatMap]
  constructor
  · intro decided
    obtain ⟨i, inside, member⟩ := decided
    have found := List.getElem?_eq_getElem (List.mem_range.mp inside)
    rw [params.tradesDecidedAt_eq sqrt found] at member
    exact ⟨i, _, found, Option.mem_toList.mp member⟩
  · intro closed
    obtain ⟨i, bar, found, booked⟩ := closed
    obtain ⟨inside, _same⟩ := List.getElem?_eq_some_iff.mp found
    refine ⟨i, List.mem_range.mpr inside, ?_⟩
    rw [params.tradesDecidedAt_eq sqrt found]
    exact Option.mem_toList.mpr booked

/-- On every bar that a reported position reaches, an exit would be booked at a price of
the bar. -/
def ExitsInRange (df : Frame K) : Prop :=
  ∀ i bar reading held, df.bars[i]? = some bar →
    params.readingAt sqrt df i = some reading →
    ((params.rules sqrt).stateAfter df i).book.position = some held → held.isLive →
      params.ExitInRange bar (df.fill i bar).1 reading held

private theorem exitTrade_eq_some_iff {bar : Bar K} {fillPrice : K}
    {reading : Option (Reading K)} {position : Option (Position K)} {trade : Trade K} :
    params.exitTrade bar fillPrice reading position = some trade ↔
      ∃ seen held exit, reading = some seen ∧ position = some held ∧ held.isLive ∧
        params.exitAt bar fillPrice seen held = some exit ∧
        held.tradeAt exit.1 bar.timestamp exit.2 = trade := by
  unfold exitTrade
  cases reading with
  | none => simp
  | some seen =>
      cases position with
      | none => simp
      | some held =>
          dsimp only
          split_ifs with live
          · simp [live]
          · simp [live]

/-- The reported exits could be traded exactly when no stop, next open or last close falls
out of the range of the bar it is booked on. -/
theorem exitsTradable_iff {df : Frame K} (daily : df.Daily) :
    ExitsTradable df (replaySymbol sqrt df params) ↔ params.ExitsInRange sqrt df := by
  constructor
  · intro tradable i bar reading held found read position live
    rw [exitInRange_iff]
    intro exit booked
    have closed : params.exitTrade bar (df.fill i bar).1 (params.readingAt sqrt df i)
        ((params.rules sqrt).stateAfter df i).book.position =
          some (held.tradeAt exit.1 bar.timestamp exit.2) :=
      params.exitTrade_eq_some_iff.mpr ⟨reading, held, exit, read, position, live, booked, rfl⟩
    exact tradable _ ((params.mem_closedTrades_iff sqrt).mpr ⟨i, bar, found, closed⟩) bar
      (List.mem_of_getElem? found) rfl
  · intro inRange trade member other otherMember sameDate
    obtain ⟨i, bar, found, closed⟩ := (params.mem_closedTrades_iff sqrt).mp member
    obtain ⟨reading, held, exit, read, position, live, booked, rfl⟩ :=
      params.exitTrade_eq_some_iff.mp closed
    have same : other = bar := daily.eq_of_date otherMember (List.mem_of_getElem? found) sameDate
    rw [same]
    exact (params.exitInRange_iff _ _ _ _).mp
      (inRange i bar reading held found read position live) exit booked

end Params

/-! ### A gap below the stop -/

/-- A bar at one price, one above the given number. -/
def flatBar (day : ℤ) (below : ℕ) : Bar ℚ :=
  { timestamp := ⟨86400 * day⟩
    openPrice := below + 1
    high := below + 1
    low := below + 1
    close := below + 1
    open_pos := Nat.cast_add_one_pos below
    close_pos := Nat.cast_add_one_pos below }

/-- A squeeze of twenty bars, a breakout, the bar of the entry, and an open far below the
stop. -/
def gapFrame : Frame ℚ :=
  { bars :=
      ([1009, 1005, 993, 1005, 993, 1005, 993, 1005, 993, 1005, 993, 1002, 996, 1000, 998, 999,
        999, 999, 999, 999, 1039, 1039, 899].zipIdx 20700).map
          (fun quote => flatBar quote.2 quote.1)
    nonempty := List.cons_ne_nil _ _ }

def squeezeParams : Params ℚ :=
  { squeezeThreshold := 1
    stopLossPct := 5
    maxHoldDays := 30 }

theorem gapFrame_exitsTradable_iff :
    ExitsTradable gapFrame (replaySymbol Rat.sqrt gapFrame squeezeParams) ↔
      squeezeParams.ExitsInRange Rat.sqrt gapFrame :=
  squeezeParams.exitsTradable_iff Rat.sqrt (by decide)

/-- The stop is booked at 988 on a bar whose only price is 900. -/
theorem gapFrame_not_exitsTradable :
    (∀ bar ∈ gapFrame.bars, bar.low ≤ bar.openPrice ∧ bar.low ≤ bar.close ∧
        bar.openPrice ≤ bar.high ∧ bar.close ≤ bar.high) ∧
      gapFrame.Daily ∧
      ¬ ExitsTradable gapFrame (replaySymbol Rat.sqrt gapFrame squeezeParams) := by
  have booked : ((replaySymbol Rat.sqrt gapFrame squeezeParams).closedTrades.map
      (fun trade => (trade.exitDate, trade.exitPrice))) = [(20722, 988)] := by
    decide +kernel
  refine ⟨by decide +kernel, by decide, ?_⟩
  intro tradable
  have listed : ((20722 : Date), (988 : ℚ)) ∈
      (replaySymbol Rat.sqrt gapFrame squeezeParams).closedTrades.map
        (fun trade => (trade.exitDate, trade.exitPrice)) := by
    rw [booked]
    exact List.mem_cons_self
  obtain ⟨trade, member, fields⟩ := List.mem_map.mp listed
  obtain ⟨date, price⟩ := Prod.mk.inj fields
  have gapBar : flatBar 20722 899 ∈ gapFrame.bars := by decide +kernel
  have inRange := (tradable trade member (flatBar 20722 899) gapBar date.symm).2
  rw [price] at inRange
  exact absurd inRange (by decide +kernel)

end TradingEngine.BBSqueezeTrader
