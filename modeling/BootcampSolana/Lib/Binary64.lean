import Mathlib.Algebra.Order.Floor.Ring
import Mathlib.Data.Int.Log
import Mathlib.Data.Rat.Floor
import Mathlib.Tactic.FieldSimp
import Mathlib.Tactic.Linarith
import Mathlib.Tactic.NormNum
import Mathlib.Tactic.Positivity

/-!
# Binary floating point

The double-precision numbers as rationals: what 64 bits stand for, the rounding of a result to 53
significant bits, or to fewer below the least normal number, and the infinities that a result too
large to be rounded ends at. The sign of a zero is not kept.

* `abs_nearest_sub_le`, `abs_nearest_sub_rel` — how far a result is off
* `nearest_intCast`, `round_intCast` — integers of 53 bits are not rounded
-/

namespace Binary64

inductive Value where
  | number (x : ℚ)
  | infinity (negative : Bool)
  | nan
  deriving DecidableEq

/-- What 64 bits stand for. -/
def ofBits (w : ℕ) : Value :=
  let negative : Bool := w / 2 ^ 63 % 2 = 1
  let sign : ℚ := if negative then -1 else 1
  let exponent : ℕ := w / 2 ^ 52 % 2 ^ 11
  let fraction : ℕ := w % 2 ^ 52
  if exponent = 2047 then if fraction = 0 then .infinity negative else .nan
  else if exponent = 0 then .number (sign * fraction * 2 ^ (-1074 : ℤ))
  else .number (sign * (2 ^ 52 + fraction) * 2 ^ ((exponent : ℤ) - 1075))

/-- The nearest integer, and the even one of two. -/
def halfEven (x : ℚ) : ℤ :=
  if Int.fract x < 1 / 2 ∨ (Int.fract x = 1 / 2 ∧ ⌊x⌋ % 2 = 0) then ⌊x⌋ else ⌊x⌋ + 1

/-- The distance of the numbers around `x`, which the subnormal numbers keep. -/
def ulp (x : ℚ) : ℚ := 2 ^ max (Int.log 2 |x| - 52) (-1074)

def nearest (x : ℚ) : ℚ := halfEven (x / ulp x) * ulp x

/-- The result of an operation. -/
def round (x : ℚ) : Value :=
  if |nearest x| < 2 ^ 1024 then .number (nearest x) else .infinity (x < 0)

def Value.mul : Value → Value → Value
  | .number x, .number y => round (x * y)
  | .infinity s, .infinity t => .infinity (s != t)
  | .infinity s, .number y => if y = 0 then .nan else .infinity (s != decide (y < 0))
  | .number x, .infinity t => if x = 0 then .nan else .infinity (decide (x < 0) != t)
  | .nan, _ => .nan
  | _, .nan => .nan

variable {x : ℚ} {n e : ℤ}

/-! ## To an integer -/

theorem abs_halfEven_sub_le (x : ℚ) : |halfEven x - x| ≤ 1 / 2 := by
  have hsplit := Int.floor_add_fract x
  have hnonneg := Int.fract_nonneg x
  have hlt := Int.fract_lt_one x
  rw [abs_le]
  unfold halfEven
  split_ifs with h
  · have hle : Int.fract x ≤ 1 / 2 := by
      rcases h with h | h
      · exact h.le
      · exact h.1.le
    constructor <;> linarith
  · rw [not_or] at h
    have hle := not_lt.mp h.1
    push_cast
    constructor <;> linarith

/-- An integer that is nearer than a half is the nearest one. -/
theorem halfEven_eq (h : |x - n| < 1 / 2) : halfEven x = n := by
  have hhalf := abs_halfEven_sub_le x
  rw [abs_lt] at h
  rw [abs_le] at hhalf
  have hlt : (halfEven x : ℚ) < (n + 1 : ℤ) := by
    push_cast
    linarith
  have hgt : ((n - 1 : ℤ) : ℚ) < halfEven x := by
    push_cast
    linarith
  have hlt := Int.cast_lt.mp hlt
  have hgt := Int.cast_lt.mp hgt
  omega

theorem halfEven_intCast (n : ℤ) : halfEven n = n := halfEven_eq (by simp)

/-! ## To 53 bits -/

theorem ulp_pos (x : ℚ) : 0 < ulp x := zpow_pos (by norm_num) _

/-- **A result is off by half an ulp at most.** -/
theorem abs_nearest_sub_le (x : ℚ) : |nearest x - x| ≤ ulp x / 2 := by
  have hpos := ulp_pos x
  have hsplit : nearest x - x = (halfEven (x / ulp x) - x / ulp x) * ulp x := by
    rw [nearest, sub_mul, div_mul_cancel₀ x hpos.ne']
  rw [hsplit, abs_mul, abs_of_pos hpos]
  have h := mul_le_mul_of_nonneg_right (abs_halfEven_sub_le (x / ulp x)) hpos.le
  linarith

theorem ulp_le (hx : x ≠ 0) (h : |x| < 2 ^ e) (he : -1021 ≤ e) : ulp x ≤ 2 ^ (e - 53) := by
  have hlog := (Int.lt_zpow_iff_log_lt (by decide : 1 < 2) (abs_pos.mpr hx)).mp h
  exact zpow_le_zpow_right₀ (by norm_num) (by omega)

theorem nearest_zero : nearest 0 = 0 := by simp [nearest, halfEven]

/-- The same in proportion to the result, down to the least number. -/
theorem abs_nearest_sub_rel (x : ℚ) :
    |nearest x - x| ≤ |x| * 2 ^ (-53 : ℤ) + 2 ^ (-1075 : ℤ) := by
  by_cases hx : x = 0
  · subst hx
    rw [nearest_zero, sub_self, abs_zero, zero_mul, zero_add]
    exact zpow_nonneg (by norm_num) _
  have hhalf : ∀ k : ℤ, (2 : ℚ) ^ k / 2 = 2 ^ (k - 1) := by
    intro k
    rw [zpow_sub_one₀ (by norm_num), div_eq_mul_inv]
  have hlog : (2 : ℚ) ^ Int.log 2 |x| ≤ |x| := Int.zpow_log_le_self (by decide) (abs_pos.mpr hx)
  have hnormal : (2 : ℚ) ^ (Int.log 2 |x| - 53) ≤ |x| * 2 ^ (-53 : ℤ) := by
    rw [sub_eq_add_neg, zpow_add₀ (by norm_num)]
    exact mul_le_mul_of_nonneg_right hlog (zpow_nonneg (by norm_num) _)
  have hleast : (0 : ℚ) ≤ 2 ^ (-1075 : ℤ) := zpow_nonneg (by norm_num) _
  have hproportion : 0 ≤ |x| * 2 ^ (-53 : ℤ) :=
    mul_nonneg (abs_nonneg x) (zpow_nonneg (by norm_num) _)
  refine (abs_nearest_sub_le x).trans ?_
  rcases max_choice (Int.log 2 |x| - 52) (-1074) with h | h
  · rw [ulp, h, hhalf, show Int.log 2 |x| - 52 - 1 = Int.log 2 |x| - 53 by ring]
    linarith
  · rw [ulp, h, hhalf, show (-1074 : ℤ) - 1 = -1075 by norm_num]
    linarith

/-- **An integer with 53 bits is not rounded.** -/
theorem nearest_intCast (h : |n| < 2 ^ 53) : nearest n = n := by
  by_cases hn : n = 0
  · subst hn
    exact_mod_cast nearest_zero
  have hpos : (0 : ℚ) < |(n : ℚ)| := by positivity
  have hlog : Int.log 2 |(n : ℚ)| < 53 := by
    refine (Int.lt_zpow_iff_log_lt (by decide : 1 < 2) hpos).mp ?_
    exact_mod_cast h
  have hone : (0 : ℤ) ≤ Int.log 2 |(n : ℚ)| := by
    refine (Int.zpow_le_iff_le_log (by decide : 1 < 2) hpos).mp ?_
    rw [zpow_zero]
    exact_mod_cast Int.one_le_abs hn
  -- so one ulp divides it
  obtain ⟨k, hk⟩ := Int.eq_ofNat_of_zero_le (by omega : 0 ≤ 52 - Int.log 2 |(n : ℚ)|)
  have hulp : ulp n = (2 ^ k : ℚ)⁻¹ := by
    rw [ulp, max_eq_left (by omega), ← zpow_natCast, ← zpow_neg, ← hk]
    congr 1
    omega
  have hint : (n : ℚ) / ulp n = ((n * 2 ^ k : ℤ) : ℚ) := by
    rw [hulp]
    push_cast
    field_simp
  rw [nearest, hint, halfEven_intCast, ← hint, div_mul_cancel₀ _ (ulp_pos _).ne']

theorem round_intCast (h : |n| < 2 ^ 53) : round n = .number n := by
  have hlt : |(n : ℚ)| < 2 ^ 1024 := by
    have hcast : |(n : ℚ)| < 2 ^ 53 := by exact_mod_cast h
    exact hcast.trans (pow_lt_pow_right₀ (by norm_num) (by norm_num))
  rw [round, nearest_intCast h, if_pos hlt]

end Binary64
