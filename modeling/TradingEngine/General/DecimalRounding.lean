/-
Decimal rounding over an ordered field with floors.

`roundHalfEven` is the nearest integer with ties going to the even neighbour,
and `roundTo places` is the same rule at a number of decimal places.  A value
is settled at those places when rounding leaves it alone; settled values are
closed under addition, and rounding never crosses a settled value.  `quantize`
rounds ties away from zero.
-/

import Mathlib.Algebra.Order.Floor.Ring
import Mathlib.Data.Rat.Floor
import Mathlib.Tactic.Linarith
import Mathlib.Tactic.Positivity
import Mathlib.Tactic.FieldSimp
import Mathlib.Tactic.Ring
import Mathlib.Tactic.NormNum

namespace DecimalRounding

variable {K : Type} [Field K] [LinearOrder K] [IsStrictOrderedRing K] [FloorRing K]

/-- The nearest integer; a tie goes to the even neighbour. -/
def roundHalfEven (x : K) : ℤ :=
  if x - ⌊x⌋ < 1 / 2 then ⌊x⌋
  else if 1 / 2 < x - ⌊x⌋ then ⌊x⌋ + 1
  else if ⌊x⌋ % 2 = 0 then ⌊x⌋ else ⌊x⌋ + 1

def roundTo (places : ℕ) (x : K) : K :=
  (roundHalfEven (x * 10 ^ places) : K) / 10 ^ places

/-- A value that rounding at these places does not change. -/
def Settled (places : ℕ) (x : K) : Prop :=
  roundTo places x = x

theorem roundHalfEven_intCast (n : ℤ) : roundHalfEven (n : K) = n := by
  unfold roundHalfEven
  rw [if_pos]
  · exact Int.floor_intCast n
  · rw [Int.floor_intCast, sub_self]
    norm_num

omit [IsStrictOrderedRing K] in
theorem floor_le_roundHalfEven (x : K) : ⌊x⌋ ≤ roundHalfEven x := by
  unfold roundHalfEven
  split_ifs <;> omega

omit [IsStrictOrderedRing K] in
theorem le_roundHalfEven (n : ℤ) (x : K) (bound : (n : K) ≤ x) :
    n ≤ roundHalfEven x :=
  le_trans (Int.le_floor.mpr bound) (floor_le_roundHalfEven x)

omit [FloorRing K] in
private theorem scale_pos (places : ℕ) : (0 : K) < 10 ^ places := by
  positivity

private theorem roundTo_scale (places : ℕ) (x : K) :
    roundTo places x * 10 ^ places = roundHalfEven (x * 10 ^ places) :=
  div_mul_cancel₀ _ (ne_of_gt (scale_pos places))

theorem settled_iff_exists_int (places : ℕ) (x : K) :
    Settled places x ↔ ∃ n : ℤ, x * 10 ^ places = n := by
  constructor
  · intro settled
    refine ⟨roundHalfEven (x * 10 ^ places), ?_⟩
    rw [← roundTo_scale, settled]
  · rintro ⟨n, scaled⟩
    unfold Settled roundTo
    rw [scaled, roundHalfEven_intCast, ← scaled]
    exact mul_div_cancel_right₀ x (ne_of_gt (scale_pos places))

theorem roundTo_settled (places : ℕ) (x : K) : Settled places (roundTo places x) :=
  (settled_iff_exists_int places _).mpr
    ⟨roundHalfEven (x * 10 ^ places), roundTo_scale places x⟩

theorem settled_zero (places : ℕ) : Settled places (0 : K) :=
  (settled_iff_exists_int places 0).mpr ⟨0, by simp⟩

theorem Settled.add {places : ℕ} {x y : K}
    (left : Settled places x) (right : Settled places y) : Settled places (x + y) := by
  rcases (settled_iff_exists_int places x).mp left with ⟨m, hm⟩
  rcases (settled_iff_exists_int places y).mp right with ⟨n, hn⟩
  refine (settled_iff_exists_int places (x + y)).mpr ⟨m + n, ?_⟩
  rw [add_mul, hm, hn, Int.cast_add]

theorem Settled.neg {places : ℕ} {x : K} (settled : Settled places x) :
    Settled places (-x) := by
  rcases (settled_iff_exists_int places x).mp settled with ⟨m, hm⟩
  refine (settled_iff_exists_int places (-x)).mpr ⟨-m, ?_⟩
  rw [neg_mul, hm, Int.cast_neg]

theorem Settled.natCast_mul {places : ℕ} {x : K} (count : ℕ)
    (settled : Settled places x) : Settled places ((count : K) * x) := by
  rcases (settled_iff_exists_int places x).mp settled with ⟨m, hm⟩
  refine (settled_iff_exists_int places ((count : K) * x)).mpr ⟨count * m, ?_⟩
  rw [mul_assoc, hm]
  push_cast
  ring

theorem Settled.le_roundTo {places : ℕ} {bound x : K}
    (settled : Settled places bound) (below : bound ≤ x) : bound ≤ roundTo places x := by
  rcases (settled_iff_exists_int places bound).mp settled with ⟨n, scaled⟩
  have scaledBelow : (n : K) ≤ x * 10 ^ places := by
    rw [← scaled]
    exact mul_le_mul_of_nonneg_right below (le_of_lt (scale_pos places))
  have rounded : (n : K) ≤ roundHalfEven (x * 10 ^ places) :=
    Int.cast_le.mpr (le_roundHalfEven n _ scaledBelow)
  rw [← roundTo_scale, ← scaled] at rounded
  exact le_of_mul_le_mul_right rounded (scale_pos places)

theorem roundHalfEven_error (x : K) : |(roundHalfEven x : K) - x| ≤ 1 / 2 := by
  have below := Int.floor_le x
  have above := Int.lt_floor_add_one x
  unfold roundHalfEven
  rw [abs_le]
  split_ifs with low high
  · constructor <;> linarith
  · rw [Int.cast_add, Int.cast_one]
    constructor <;> linarith
  · constructor <;> linarith [not_lt.mp high]
  · rw [Int.cast_add, Int.cast_one]
    constructor <;> linarith [not_lt.mp low]

theorem roundTo_error (places : ℕ) (x : K) : |roundTo places x - x| ≤ 1 / 2 / 10 ^ places := by
  have positive : (0 : K) < 10 ^ places := scale_pos places
  have scaled : roundTo places x - x =
      (roundHalfEven (x * 10 ^ places) - x * 10 ^ places) / 10 ^ places := by
    unfold roundTo
    field_simp
  rw [scaled, abs_div, abs_of_pos positive]
  exact div_le_div_of_nonneg_right (roundHalfEven_error _) positive.le

/-! ### Ties away from zero -/

/-- The nearest integer; a tie goes away from zero. -/
def roundHalfUp (x : K) : ℤ :=
  if 0 ≤ x then ⌊x + 1 / 2⌋ else -⌊-x + 1 / 2⌋

def quantize (places : ℕ) (x : K) : K :=
  (roundHalfUp (x * 10 ^ places) : K) / 10 ^ places

theorem quantize_nonneg (places : ℕ) {x : K} (nonneg : 0 ≤ x) : 0 ≤ quantize places x := by
  have scaled : 0 ≤ x * 10 ^ places := mul_nonneg nonneg (le_of_lt (scale_pos places))
  have rounded : 0 ≤ roundHalfUp (x * 10 ^ places) := by
    unfold roundHalfUp
    rw [if_pos scaled]
    exact Int.floor_nonneg.mpr (by linarith)
  exact div_nonneg (Int.cast_nonneg rounded) (le_of_lt (scale_pos places))

theorem roundHalfUp_error (x : K) : |(roundHalfUp x : K) - x| ≤ 1 / 2 := by
  unfold roundHalfUp
  split_ifs
  · have below := Int.floor_le (x + 1 / 2)
    have above := Int.lt_floor_add_one (x + 1 / 2)
    rw [abs_le]
    constructor <;> linarith
  · have below := Int.floor_le (-x + 1 / 2)
    have above := Int.lt_floor_add_one (-x + 1 / 2)
    rw [abs_le, Int.cast_neg]
    constructor <;> linarith

theorem quantize_error (places : ℕ) (x : K) : |quantize places x - x| ≤ 1 / 2 / 10 ^ places := by
  have positive : (0 : K) < 10 ^ places := scale_pos places
  have scaled : quantize places x - x =
      (roundHalfUp (x * 10 ^ places) - x * 10 ^ places) / 10 ^ places := by
    unfold quantize
    field_simp
  rw [scaled, abs_div, abs_of_pos positive]
  exact div_le_div_of_nonneg_right (roundHalfUp_error _) positive.le

theorem quantize_of_settled {places : ℕ} {x : K} (settled : Settled places x) :
    quantize places x = x := by
  obtain ⟨n, scaled⟩ := (settled_iff_exists_int places x).mp settled
  have half : ∀ m : ℤ, ⌊(m : K) + 1 / 2⌋ = m := by
    intro m
    rw [Int.floor_intCast_add, Int.floor_eq_zero_iff.mpr]
    · exact add_zero m
    · constructor <;> norm_num
  have whole : roundHalfUp (n : K) = n := by
    unfold roundHalfUp
    split_ifs
    · exact half n
    · rw [← Int.cast_neg, half, neg_neg]
  unfold quantize
  rw [scaled, whole, ← scaled]
  exact mul_div_cancel_right₀ x (scale_pos places).ne'

example : roundTo 2 (2.675 : ℚ) = 2.68 ∧ roundTo 2 (2.665 : ℚ) = 2.66 := by
  decide +kernel

example : quantize 2 (2.665 : ℚ) = 2.67 ∧ quantize 2 (-2.665 : ℚ) = -2.67 := by
  decide +kernel

end DecimalRounding
