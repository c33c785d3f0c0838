import RuleArena.Foundation.PyValue

/-!
# Decimal arithmetic in a context

Python's `decimal` computes a sum, a product or a quotient exactly and then
rounds it to the 28 significant digits of its context, ties to even. Here the
numbers are rationals and the rounding is `Context.round`. The smallest numbers
keep fewer digits, down to none at all, and a result whose first digit stands
for more than `10 ^ 999999` overflows (`Context.InRange`).

A number of at most 28 digits is not rounded (`Context.round_eq`), and rounding
does not carry a quotient with a small denominator past an integer
(`Context.floor_round`): the integral part of a rounded share is the integral
part of the share.
-/

namespace RuleArena

/-- The number a finite numeral stands for. -/
def PyDecimal.value : PyDecimal → ℚ
  | finite negative coefficient exponent =>
    (if negative then -1 else 1) * coefficient * 10 ^ exponent
  | _ => 0

/-- The number an amount stands for. -/
def Amount.value (a : Amount) : ℚ := a.toInt / 100

theorem PyDecimal.value_finite_amount (negative : Bool) (cents : Nat) :
    (PyDecimal.finite negative cents (-2)).value = (Amount.mk negative cents).value := by
  cases negative <;> norm_num [PyDecimal.value, Amount.value, Amount.toInt, div_eq_mul_inv]

namespace Context

/-- The nearest integer, the even one of two. -/
def roundHalfEven (x : ℚ) : ℤ :=
  if x - ⌊x⌋ < 1 / 2 then ⌊x⌋
  else if 1 / 2 < x - ⌊x⌋ then ⌊x⌋ + 1
  else if ⌊x⌋ % 2 = 0 then ⌊x⌋
  else ⌊x⌋ + 1

/-- `Etiny`: no digit stands for less than `10 ^ etiny`. -/
def etiny : ℤ := -1000026

/-- The exponent of the last digit that a number keeps: of its 28 significant digits, or of the
    last one that there is. -/
def exponent (x : ℚ) : ℤ := max (Int.log 10 |x| - 27) etiny

/-- A number rounded to 28 significant digits, or to those of them that there are. -/
def round (x : ℚ) : ℚ := roundHalfEven (x / 10 ^ exponent x) * 10 ^ exponent x

def add (x y : ℚ) : ℚ := round (x + y)

def sub (x y : ℚ) : ℚ := round (x - y)

def mul (x y : ℚ) : ℚ := round (x * y)

def div (x y : ℚ) : ℚ := round (x / y)

/-- A result that does not overflow: its first digit stands for `10 ^ 999999`, `Emax`, at most. -/
def InRange (x : ℚ) : Prop := Int.log 10 |x| ≤ 999999

instance (x : ℚ) : Decidable (InRange x) := inferInstanceAs (Decidable (_ ≤ _))

/-- A result that has been computed, unless it overflows. -/
def checked (x : ℚ) : Except PyException ℚ := do
  ensure (InRange x) .decimalOverflow
  return x

theorem checked_of_inRange {x : ℚ} (h : InRange x) : checked x = .ok x := by
  rw [checked, Checked.ensure_of_pos h]
  rfl

/-! ## The nearest integer -/

theorem roundHalfEven_intCast (n : ℤ) : roundHalfEven n = n := by
  simp [roundHalfEven]

theorem abs_roundHalfEven_sub_le (x : ℚ) : |(roundHalfEven x : ℚ) - x| ≤ 1 / 2 := by
  have h₀ := Int.floor_le x
  have h₁ := Int.lt_floor_add_one x
  unfold roundHalfEven
  split_ifs <;> push_cast <;> rw [abs_le] <;> constructor <;> linarith

/-! ## Exact results -/

theorem exponent_le {x : ℚ} {e : ℤ} (he : etiny ≤ e) (hx : x ≠ 0) (h : |x| < 10 ^ (e + 28)) :
    exponent x ≤ e := by
  have := (Int.lt_zpow_iff_log_lt (b := 10) (by norm_num) (abs_pos.2 hx)).1 (by exact_mod_cast h)
  refine max_le ?_ he
  omega

/-- A number of at most 28 digits is not rounded. -/
theorem round_eq {n e : ℤ} (he : etiny ≤ e) (h : |n| < 10 ^ 28) :
    round (n * 10 ^ e) = n * 10 ^ e := by
  by_cases hn : n = 0
  · simp [hn, round, roundHalfEven]
  have ten : (0 : ℚ) < 10 ^ e := by positivity
  have hx : (n : ℚ) * 10 ^ e ≠ 0 := mul_ne_zero (by exact_mod_cast hn) ten.ne'
  have hq : exponent (n * 10 ^ e) ≤ e := by
    refine exponent_le he hx ?_
    rw [abs_mul, abs_of_pos ten, add_comm, zpow_add₀ (by norm_num)]
    have : |(n : ℚ)| < 10 ^ (28 : ℤ) := by exact_mod_cast h
    exact mul_lt_mul_of_pos_right this ten
  obtain ⟨k, hk⟩ := Int.le.dest hq
  have whole : (n : ℚ) * 10 ^ e / 10 ^ exponent (n * 10 ^ e) = ((n * 10 ^ k : ℤ) : ℚ) := by
    rw [mul_div_assoc, ← zpow_sub₀ (by norm_num)]
    push_cast
    rw [← zpow_natCast (10 : ℚ) k]
    congr 2
    omega
  rw [round, whole, roundHalfEven_intCast, ← whole, div_mul_cancel₀ _ (by positivity)]

theorem round_cents {n : ℤ} (h : |n| < 10 ^ 28) : round (n / 100) = n / 100 := by
  have := round_eq (n := n) (e := -2) (by decide) h
  norm_num [zpow_neg] at this
  simpa [div_eq_mul_inv] using this

theorem round_intCast {n : ℤ} (h : |n| < 10 ^ 28) : round n = n := by
  simpa using round_eq (n := n) (e := 0) (by decide) h

/-- A number that is not too large is in range. -/
theorem inRange_of_lt {x : ℚ} {e : ℤ} (he : e ≤ 10 ^ 6) (h : |x| < 10 ^ e) : InRange x := by
  rcases eq_or_ne x 0 with rfl | hx
  · rw [InRange, abs_zero, Int.log_zero_right]
    norm_num
  · have := (Int.lt_zpow_iff_log_lt (b := 10) (by norm_num) (abs_pos.2 hx)).1
      (by exact_mod_cast h)
    rw [InRange]
    omega

/-- The difference of two amounts in cents is exact, and in range. -/
theorem sub_cents {a b : ℤ} (h : |a - b| < 10 ^ 28) :
    sub (a / 100) (b / 100) = ((a - b : ℤ) : ℚ) / 100 ∧ InRange (sub (a / 100) (b / 100)) := by
  have exact : sub (a / 100) (b / 100) = ((a - b : ℤ) : ℚ) / 100 := by
    rw [sub, ← sub_div, ← Int.cast_sub, round_cents h]
  refine ⟨exact, inRange_of_lt (e := 28) (by norm_num) ?_⟩
  have bound : |((a - b : ℤ) : ℚ)| < 10 ^ (28 : ℤ) := by
    rw [← Int.cast_abs]
    exact_mod_cast h
  rw [exact, abs_div, abs_of_pos (show (0 : ℚ) < 100 by norm_num)]
  exact (div_le_self (abs_nonneg _) (by norm_num)).trans_lt bound

/-! ## Bounds -/

theorem roundHalfEven_nonneg {x : ℚ} (h : 0 ≤ x) : 0 ≤ roundHalfEven x := by
  have near := abs_le.1 (abs_roundHalfEven_sub_le x)
  have : (-1 : ℚ) < roundHalfEven x := by linarith
  have : (-1 : ℤ) < roundHalfEven x := by exact_mod_cast this
  omega

theorem roundHalfEven_le {x : ℚ} {m : ℤ} (h : x ≤ m) : roundHalfEven x ≤ m := by
  have near := abs_le.1 (abs_roundHalfEven_sub_le x)
  have : (roundHalfEven x : ℚ) < m + 1 := by linarith
  exact Int.lt_add_one_iff.1 (by exact_mod_cast this)

theorem round_nonneg {x : ℚ} (h : 0 ≤ x) : 0 ≤ round x := by
  have : 0 ≤ roundHalfEven (x / 10 ^ exponent x) := roundHalfEven_nonneg (by positivity)
  have : (0 : ℚ) ≤ roundHalfEven (x / 10 ^ exponent x) := by exact_mod_cast this
  exact mul_nonneg this (by positivity)

/-- Rounding does not carry a number past one of at most 28 digits. -/
theorem round_le {x : ℚ} (hx : 0 ≤ x) {n e : ℤ} (least : etiny ≤ e) (h : x ≤ n * 10 ^ e)
    (small : |n| < 10 ^ 28) : round x ≤ n * 10 ^ e := by
  rcases hx.eq_or_lt with rfl | pos
  · simpa [round, roundHalfEven] using h
  by_cases he : exponent x ≤ e
  · -- The bound is a multiple of the unit of the last digit.
    obtain ⟨k, hk⟩ := Int.le.dest he
    have ten : (0 : ℚ) < 10 ^ exponent x := by positivity
    have bound : (n : ℚ) * 10 ^ e = ((n * 10 ^ k : ℤ) : ℚ) * 10 ^ exponent x := by
      rw [← hk, zpow_add₀ (by norm_num)]
      push_cast
      rw [zpow_natCast]
      ring
    rw [bound] at h ⊢
    have le := roundHalfEven_le ((div_le_iff₀ ten).2 h)
    exact mul_le_mul_of_nonneg_right (by exact_mod_cast le) ten.le
  · -- The number has more digits than the bound.
    have large : (10 : ℚ) ^ (e + 28) ≤ x := by
      have := Int.zpow_log_le_self (b := 10) (r := x) (by norm_num) pos
      refine (zpow_le_zpow_right₀ (by norm_num) ?_).trans (by exact_mod_cast this)
      have more := lt_of_not_ge he
      rw [exponent, abs_of_pos pos, lt_max_iff] at more
      omega
    have : (n : ℚ) * 10 ^ e < 10 ^ (e + 28) := by
      rw [zpow_add₀ (by norm_num), mul_comm]
      refine mul_lt_mul_of_pos_left ?_ (by positivity)
      exact_mod_cast lt_of_abs_lt small
    linarith

/-! ## Shares -/

theorem abs_round_sub_le (x : ℚ) : |round x - x| ≤ 10 ^ exponent x / 2 := by
  have ten : (0 : ℚ) < 10 ^ exponent x := by positivity
  have hx : x = x / 10 ^ exponent x * 10 ^ exponent x := (div_mul_cancel₀ _ ten.ne').symm
  calc |round x - x|
      = |(roundHalfEven (x / 10 ^ exponent x) : ℚ) - x / 10 ^ exponent x| * 10 ^ exponent x := by
        rw [round, ← abs_of_pos ten, ← abs_mul, abs_of_pos ten, sub_mul, ← hx]
    _ ≤ 1 / 2 * 10 ^ exponent x := by
        exact mul_le_mul_of_nonneg_right (abs_roundHalfEven_sub_le _) ten.le
    _ = 10 ^ exponent x / 2 := by ring

/-- Rounding does not carry a number with a small denominator past an integer. -/
theorem floor_round {a b : ℤ} (hb : 0 < b) (hb' : b ≤ 10 ^ 16) (ha : 0 ≤ a)
    (h : a < b * 10 ^ 11) : ⌊round (a / b)⌋ = a / b := by
  have hbq : (0 : ℚ) < b := by exact_mod_cast hb
  have decomp : (a : ℚ) / b = (a / b : ℤ) + ((a % b : ℤ) : ℚ) / b := by
    field_simp
    exact_mod_cast (Int.mul_ediv_add_emod a b).symm
  by_cases hr : a % b = 0
  · -- An integer is not rounded at all.
    have : (a : ℚ) / b = (a / b : ℤ) := by rw [decomp, hr]; simp
    have small : |a / b| < 10 ^ 28 := by
      rw [abs_of_nonneg (Int.ediv_nonneg ha hb.le)]
      exact lt_of_lt_of_le (Int.ediv_lt_of_lt_mul hb (by linarith)) (by norm_num : (10:ℤ)^11 ≤ _)
    rw [this, round_intCast small, Int.floor_intCast]
  · -- Otherwise it is further from either neighbour than rounding moves it.
    have r₀ : 1 ≤ a % b := by have := Int.emod_nonneg a hb.ne'; omega
    have r₁ : a % b + 1 ≤ b := Int.emod_lt_of_pos a hb
    have x₀ : (a : ℚ) / b ≠ 0 := by
      rw [Ne, div_eq_zero_iff, not_or]
      refine ⟨?_, hbq.ne'⟩
      have : a ≠ 0 := by rintro rfl; simp at hr
      exact_mod_cast this
    have x₁ : |(a : ℚ) / b| < 10 ^ ((-17 : ℤ) + 28) := by
      rw [abs_of_nonneg (by positivity), div_lt_iff₀ hbq]
      have : (a : ℚ) < b * 10 ^ 11 := by exact_mod_cast h
      norm_num at this ⊢
      linarith
    have step : (10 : ℚ) ^ exponent ((a : ℚ) / b) ≤ 10 ^ (-17 : ℤ) :=
      zpow_le_zpow_right₀ (by norm_num) (exponent_le (by decide) x₀ x₁)
    have err := (abs_round_sub_le ((a : ℚ) / b)).trans (by linarith : _ ≤ (10 : ℚ) ^ (-17 : ℤ) / 2)
    have unit : (10 : ℚ) ^ (-16 : ℤ) ≤ 1 / b := by
      rw [zpow_neg, ← one_div]
      exact one_div_le_one_div_of_le hbq (by exact_mod_cast hb')
    have low : (1 : ℚ) / b ≤ ((a % b : ℤ) : ℚ) / b := by
      exact div_le_div_of_nonneg_right (by exact_mod_cast r₀) hbq.le
    have high : ((a % b : ℤ) : ℚ) / b + 1 / b ≤ 1 := by
      rw [← add_div, div_le_one hbq]
      exact_mod_cast r₁
    rw [abs_le, decomp] at err
    rw [decomp, Int.floor_eq_iff]
    norm_num only at err unit
    constructor <;> linarith

end Context

end RuleArena
