/-
Text functions of Python's standard library.

The engine normalises and parses text with `str.upper`, `str.strip`, `repr`,
`int`, `Decimal` and `datetime.strptime`.  They are taken as given: a structure
holds one function each, with the documented facts that the results rely on.
`Python.ascii` is an instance for plain ASCII text.
-/

import Mathlib.Algebra.Order.Ring.Rat
import Mathlib.Data.List.Basic

namespace TradingEngine

/-- Microseconds since 1970-01-01. -/
abbrev Datetime := ℤ

/-- Exceptions of the functions below and of validated record types. -/
inductive Raised where
  | attributeError
  | typeError
  | valueError
  | invalidOperation
  | validationError (field : String)
deriving DecidableEq

/-- ASCII text without lower-case letters. -/
def IsUpperAscii (text : String) : Prop :=
  ∀ c ∈ text.toList, c.toNat < 128 ∧ ¬ ('a' ≤ c ∧ c ≤ 'z')

instance (text : String) : Decidable (IsUpperAscii text) :=
  List.decidableBAll _ text.toList

structure Python where
  upper : String → String
  strip : String → String
  repr : String → String
  int : String → Option ℤ
  decimal : String → Option ℚ
  /-- `datetime.strptime(text, fmt)`. -/
  strptime : String → String → Option Datetime
  /-- `str(exc)`. -/
  excText : Raised → String
  upper_of_isUpperAscii : ∀ text, IsUpperAscii text → upper text = text

namespace Python

/-- `repr` of a list of strings. -/
def reprList (py : Python) (items : List String) : String :=
  "[" ++ ", ".intercalate (items.map py.repr) ++ "]"

def isBlank (py : Python) (text : String) : Bool :=
  py.strip text = ""

private theorem toUpper_eq_self {c : Char} (upper : ¬ ('a' ≤ c ∧ c ≤ 'z')) : c.toUpper = c := by
  unfold Char.toUpper
  rw [dif_neg]
  exact upper

def digitsToNat (digits : List Char) : Option ℕ :=
  if digits ≠ [] ∧ digits.all Char.isDigit then
    some (digits.foldl (fun value digit => 10 * value + (digit.toNat - 48)) 0)
  else none

/-- The functions on ASCII text, with unsigned whole numbers and no dates. -/
def ascii : Python :=
  { upper := fun text => String.ofList (text.toList.map Char.toUpper)
    strip := fun text => String.ofList
      (((text.toList.dropWhile Char.isWhitespace).reverse.dropWhile Char.isWhitespace).reverse)
    repr := fun text => "'" ++ text ++ "'"
    int := fun text => (digitsToNat text.toList).map Int.ofNat
    decimal := fun text => (digitsToNat text.toList).map Nat.cast
    strptime := fun _ _ => none
    excText := fun
      | .attributeError => "attribute error"
      | .typeError => "type error"
      | .valueError => "value error"
      | .invalidOperation => "invalid operation"
      | .validationError field => "validation error: " ++ field
    upper_of_isUpperAscii := by
      intro text upper
      have same : text.toList.map Char.toUpper = text.toList := by
        conv_rhs => rw [← List.map_id text.toList]
        exact List.map_congr_left (fun c member => toUpper_eq_self (upper c member).2)
      rw [same, String.ofList_toList] }

end Python

end TradingEngine
