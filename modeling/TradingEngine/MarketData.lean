/-
Daily market data as the trading scripts receive it.

A timestamp counts seconds, so a calendar date is its floor by the length of a
day and elapsed days are the floor of a difference, as with pandas timestamps.
A bar carries positive open and close prices, which the scripts divide by when
they size an entry, and a downloaded frame is never empty.
-/

import Mathlib.Algebra.Order.Ring.Rat
import Mathlib.Data.Finset.Basic
import Mathlib.Data.List.Basic
import Mathlib.Tactic.NormNum

namespace TradingEngine

structure Timestamp where
  seconds : ℤ
deriving DecidableEq

/-- Days since 1970-01-01. -/
abbrev Date := ℤ

def Timestamp.date (moment : Timestamp) : Date :=
  moment.seconds / 86400

/-- `(later - earlier).days`. -/
def Timestamp.daysSince (later earlier : Timestamp) : ℤ :=
  (later.seconds - earlier.seconds) / 86400

/-- `PAPER_TRADING_START`, the first of June 2026. -/
def paperTradingStart : Date := 20605

structure Bar (K : Type) [Field K] [LinearOrder K] where
  timestamp : Timestamp
  openPrice : K
  high : K
  low : K
  close : K
  open_pos : 0 < openPrice
  close_pos : 0 < close
deriving DecidableEq

theorem hundred_pos : (0 : ℚ) < 100 := by
  norm_num

/-- What `fetch_ohlcv` returns on success. -/
@[ext] structure Frame (K : Type) [Field K] [LinearOrder K] where
  bars : List (Bar K)
  nonempty : bars ≠ []

namespace Frame

variable {K : Type} [Field K] [LinearOrder K]

def length (df : Frame K) : ℕ :=
  df.bars.length

def lastBar (df : Frame K) : Bar K :=
  df.bars.getLast df.nonempty

def todayDate (df : Frame K) : Date :=
  df.lastBar.timestamp.date

def append (df : Frame K) (later : List (Bar K)) : Frame K :=
  { bars := df.bars ++ later
    nonempty := List.append_ne_nil_of_left_ne_nil df.nonempty later }

/-- Price and time at which a decision on bar `i` is filled: the next bar's open,
or the close of bar `i` while it is the last one. -/
def fill (df : Frame K) (i : ℕ) (bar : Bar K) : K × Timestamp :=
  match df.bars[i + 1]? with
  | some next => (next.openPrice, next.timestamp)
  | none => (bar.close, bar.timestamp)

@[simp] theorem lastBar_append_singleton (df : Frame K) (bar : Bar K) :
    (df.append [bar]).lastBar = bar :=
  List.getLast_concat

theorem length_append (df : Frame K) (later : List (Bar K)) :
    (df.append later).length = df.length + later.length :=
  List.length_append

theorem getElem?_append (df : Frame K) (later : List (Bar K)) {i : ℕ} (old : i < df.length) :
    (df.append later).bars[i]? = df.bars[i]? :=
  List.getElem?_append_left old

theorem fill_append (df : Frame K) (later : List (Bar K)) {i : ℕ} (bar : Bar K)
    (settled : i + 1 < df.length) : (df.append later).fill i bar = df.fill i bar := by
  unfold fill
  rw [getElem?_append df later settled]

theorem length_pos (df : Frame K) : 0 < df.length :=
  List.length_pos_of_ne_nil df.nonempty

theorem getElem?_last (df : Frame K) : df.bars[df.length - 1]? = some df.lastBar := by
  rw [lastBar, ← List.getLast?_eq_some_getLast, List.getLast?_eq_getElem?]
  rfl

theorem fill_last (df : Frame K) (bar : Bar K) :
    df.fill (df.length - 1) bar = (bar.close, bar.timestamp) := by
  have beyond : df.bars[df.length - 1 + 1]? = none := by
    rw [Nat.sub_add_cancel df.length_pos]
    exact List.getElem?_eq_none_iff.mpr (Nat.le_refl _)
  unfold fill
  rw [beyond]

/-- The suffix that is left when old bars drop out of the fetched window. -/
def drop (df : Frame K) (count : ℕ) (inside : count < df.length) : Frame K :=
  { bars := df.bars.drop count
    nonempty := by
      intro empty
      exact absurd (List.drop_eq_nil_iff.mp empty) (Nat.not_le_of_lt inside) }

section Drop

variable (df : Frame K) {count : ℕ} (inside : count < df.length)

theorem length_drop : (df.drop count inside).length = df.length - count :=
  List.length_drop

theorem getElem?_drop (i : ℕ) : (df.drop count inside).bars[i]? = df.bars[count + i]? :=
  List.getElem?_drop

theorem fill_drop (i : ℕ) (bar : Bar K) :
    (df.drop count inside).fill i bar = df.fill (count + i) bar := by
  unfold fill
  rw [df.getElem?_drop inside]
  rfl

end Drop

/-! ### Daily frames -/

def Daily (df : Frame K) : Prop :=
  df.bars.Pairwise (fun earlier later => earlier.timestamp.date < later.timestamp.date)

instance (df : Frame K) : Decidable df.Daily :=
  inferInstanceAs (Decidable (List.Pairwise _ _))

theorem Daily.of_append {df : Frame K} {later : List (Bar K)}
    (daily : (df.append later).Daily) : df.Daily :=
  (List.pairwise_append.mp daily).1

theorem Daily.drop {df : Frame K} (daily : df.Daily) {count : ℕ} (inside : count < df.length) :
    (df.drop count inside).Daily :=
  List.Pairwise.sublist (List.drop_sublist count df.bars) daily

theorem Daily.date_lt {df : Frame K} (daily : df.Daily) {i j : ℕ} (order : i < j)
    {earlier later : Bar K} (foundEarlier : df.bars[i]? = some earlier)
    (foundLater : df.bars[j]? = some later) :
    earlier.timestamp.date < later.timestamp.date := by
  obtain ⟨insideEarlier, rfl⟩ := List.getElem?_eq_some_iff.mp foundEarlier
  obtain ⟨insideLater, rfl⟩ := List.getElem?_eq_some_iff.mp foundLater
  exact List.pairwise_iff_getElem.mp daily i j insideEarlier insideLater order

theorem Daily.eq_of_date {df : Frame K} (daily : df.Daily) {left right : Bar K}
    (leftMember : left ∈ df.bars) (rightMember : right ∈ df.bars)
    (same : left.timestamp.date = right.timestamp.date) : left = right := by
  obtain ⟨i, foundLeft⟩ := List.mem_iff_getElem?.mp leftMember
  obtain ⟨j, foundRight⟩ := List.mem_iff_getElem?.mp rightMember
  rcases lt_trichotomy i j with before | rfl | after
  · exact absurd same (ne_of_lt (daily.date_lt before foundLeft foundRight))
  · exact Option.some_inj.mp (foundLeft.symm.trans foundRight)
  · exact absurd same (ne_of_gt (daily.date_lt after foundRight foundLeft))

theorem Daily.date_lt_today {df : Frame K} (daily : df.Daily) {i : ℕ}
    (early : i + 1 < df.length) {bar : Bar K} (found : df.bars[i]? = some bar) :
    bar.timestamp.date < df.todayDate :=
  daily.date_lt (Nat.lt_sub_of_add_lt early) found df.getElem?_last

theorem Daily.fillDate_lt_today {df : Frame K} (daily : df.Daily) {i : ℕ}
    (early : i + 2 < df.length) (bar : Bar K) : (df.fill i bar).2.date < df.todayDate := by
  have inside : i + 1 < df.length := Nat.lt_of_succ_lt early
  have found : df.bars[i + 1]? = some df.bars[i + 1] := List.getElem?_eq_getElem inside
  unfold fill
  rw [found]
  exact daily.date_lt_today early found

end Frame

/-! ### Traded names -/

abbrev Ticker := String

/-- A traded name in the form `sym.split("/")`: one ticker, or the legs of a pair. -/
structure Symbol where
  legs : List Ticker
  legs_ne : legs ≠ []
deriving DecidableEq

namespace Symbol

def single (ticker : Ticker) : Symbol :=
  { legs := [ticker]
    legs_ne := List.cons_ne_nil _ _ }

def pair (symA symB : Ticker) : Symbol :=
  { legs := [symA, symB]
    legs_ne := List.cons_ne_nil _ _ }

/-- `_sym_parts`: the individual tickers inside a symbol. -/
def symParts (symbol : Symbol) : Finset Ticker :=
  symbol.legs.toFinset

theorem symParts_nonempty (symbol : Symbol) : symbol.symParts.Nonempty := by
  rw [symParts, List.toFinset_nonempty_iff]
  exact symbol.legs_ne

end Symbol

end TradingEngine
