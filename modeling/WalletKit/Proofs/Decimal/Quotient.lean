import WalletKit.Proofs.Decimal.Rounding

set_option autoImplicit false

namespace WalletKit.Decimal

open Digits

/-- The leading digit of `q` stands for no less than `10 ^ -maxExponent`, and rounding `q` to `p`
digits does not carry it beyond `10 ^ maxExponent`. -/
def InRange (p : ℕ) (q : ℚ) : Prop :=
  q = 0 ∨ (10 : ℚ) ^ (-(maxExponent : ℤ)) ≤ |q| ∧
    |q| + 10 ^ ((maxExponent : ℤ) + 1 - p) / 2 < 10 ^ ((maxExponent : ℤ) + 1)

section Magnitude

variable {n places precision : ℕ}

theorem places_lt_of_inRange (positive : 0 < n) (range : InRange precision (n / 10 ^ places)) :
    places < (Nat.toDigits 10 n).length + maxExponent := by
  have nonzero : (n : ℚ) / 10 ^ places ≠ 0 := by
    have cast : (0 : ℚ) < n := by exact_mod_cast positive
    positivity
  have low := (range.resolve_left nonzero).1
  rw [abs_of_nonneg (by positivity), zpow_neg, zpow_natCast, inv_eq_one_div,
    div_le_div_iff₀ (by positivity) (by positivity), one_mul] at low
  have cast : 10 ^ places ≤ n * 10 ^ maxExponent := by exact_mod_cast low
  have digits : n * 10 ^ maxExponent < 10 ^ ((Nat.toDigits 10 n).length + maxExponent) := by
    rw [Nat.pow_add]
    exact Nat.mul_lt_mul_of_pos_right (lt_pow_length_toDigits n) (Nat.pow_pos (by decide))
  exact (Nat.pow_lt_pow_iff_right (by decide)).mp (cast.trans_lt digits)

theorem natCast_div_pow (m : ℕ) (k : ℤ) (places : ℕ) :
    (m : ℚ) * 10 ^ k / 10 ^ places = m * 10 ^ (k - places) := by
  rw [zpow_sub₀ (by norm_num), zpow_natCast, mul_div_assoc]

theorem scaled_div_pow (m k places : ℕ) :
    ((m * 10 ^ k : ℕ) : ℚ) / 10 ^ places = m * 10 ^ ((k : ℤ) - places) := by
  rw [← natCast_div_pow, zpow_natCast]
  push_cast
  rfl

theorem lastUnit_quotient (places : ℕ) (positive : 0 < n) (several : 0 < precision)
    (long : precision ≤ (Nat.toDigits 10 n).length) :
    LastUnit precision (n / 10 ^ places)
      (((Nat.toDigits 10 n).length - precision : ℕ) - (places : ℤ)) := by
  have lower := pow_le_of_length_toDigits positive
  have upper := lt_pow_length_toDigits n
  generalize (Nat.toDigits 10 n).length = digits at *
  have one : (0 : ℚ) < 10 ^ places := by positivity
  rw [LastUnit, abs_of_nonneg (by positivity), le_div_iff₀ one, div_lt_iff₀ one, mul_assoc,
    mul_assoc, ← zpow_natCast _ places, ← zpow_add₀ (by norm_num), sub_add_cancel, zpow_natCast,
    ← pow_add, ← pow_add]
  constructor
  · rw [show precision - 1 + (digits - precision) = digits - 1 by omega]
    exact_mod_cast lower
  · rw [show precision + (digits - precision) = digits by omega]
    exact_mod_cast upper

theorem significant_of_dvd (large : places < (Nat.toDigits 10 n).length + maxExponent)
    (several : 0 < precision) (exact : n % 10 ^ cutDigits n places precision = 0) :
    Significant precision (n / 10 ^ places) := by
  have split := Nat.div_mul_cancel (Nat.dvd_of_mod_eq_zero exact)
  have small : n / 10 ^ cutDigits n places precision < 10 ^ precision := by
    rw [Nat.div_lt_iff_lt_mul (Nat.pow_pos (by decide)), ← Nat.pow_add,
      cutDigits_eq large several]
    exact (lt_pow_length_toDigits n).trans_le (Nat.pow_le_pow_right (by decide) (by omega))
  have value := scaled_div_pow (n / 10 ^ cutDigits n places precision)
    (cutDigits n places precision) places
  rw [split] at value
  rw [value]
  exact .of_nat _ small

/-- Only a positive number of more digits than are kept loses anything. -/
theorem precision_lt_of_not_dvd (large : places < (Nat.toDigits 10 n).length + maxExponent)
    (several : 0 < precision) (inexact : n % 10 ^ cutDigits n places precision ≠ 0) :
    0 < n ∧ precision < (Nat.toDigits 10 n).length := by
  rw [cutDigits_eq large several] at inexact
  constructor
  · rcases Nat.eq_zero_or_pos n with rfl | positive
    · rw [Nat.zero_mod] at inexact
      exact absurd rfl inexact
    · exact positive
  · by_contra short
    rw [Nat.sub_eq_zero_of_le (Nat.le_of_not_lt short), Nat.pow_zero, Nat.mod_one] at inexact
    exact inexact rfl

/-- The kept digits are within half a unit of the quotient, and even if half a unit away. -/
theorem roundHalfEven_quotient (n places cut : ℕ) :
    |(n : ℚ) / 10 ^ places - roundHalfEven n (10 ^ cut) * 10 ^ ((cut : ℤ) - places)| ≤
        10 ^ ((cut : ℤ) - places) / 2 ∧
      (|(n : ℚ) / 10 ^ places - roundHalfEven n (10 ^ cut) * 10 ^ ((cut : ℤ) - places)| =
        10 ^ ((cut : ℤ) - places) / 2 → Even (roundHalfEven n (10 ^ cut))) := by
  obtain ⟨low, high, tie⟩ := roundHalfEven_error n (Nat.pow_pos (by decide) : 0 < 10 ^ cut)
  have lowCast : (2 * n : ℚ) ≤ 2 * (roundHalfEven n (10 ^ cut) * 10 ^ cut : ℕ) + 10 ^ cut := by
    exact_mod_cast low
  have highCast : (2 * (roundHalfEven n (10 ^ cut) * 10 ^ cut : ℕ) : ℚ) ≤ 2 * n + 10 ^ cut := by
    exact_mod_cast high
  have unit : (10 : ℚ) ^ ((cut : ℤ) - places) / 2 = 10 ^ cut / 2 / 10 ^ places := by
    rw [zpow_sub₀ (by norm_num), zpow_natCast, zpow_natCast, div_right_comm]
  have one : (0 : ℚ) < 10 ^ places := by positivity
  rw [← scaled_div_pow, ← sub_div, abs_div, abs_of_pos one, unit,
    div_le_div_iff_of_pos_right one, div_left_inj' one.ne']
  constructor
  · rw [abs_le]
    constructor <;> linarith
  · intro half
    rw [Nat.even_iff]
    apply tie
    rcases (abs_eq (by positivity)).mp half with above | below
    · left
      have equal : (2 * n : ℚ) = 2 * (roundHalfEven n (10 ^ cut) * 10 ^ cut : ℕ) + 10 ^ cut := by
        linarith
      exact_mod_cast equal
    · right
      have equal : (2 * (roundHalfEven n (10 ^ cut) * 10 ^ cut : ℕ) : ℚ) = 2 * n + 10 ^ cut := by
        linarith
      exact_mod_cast equal

/-- The number that a rounded quotient stands for. -/
def roundedValue (n places precision : ℕ) : ℚ :=
  (rounded n places precision).1 / 10 ^ (rounded n places precision).2

theorem roundedValue_of_dvd (exact : n % 10 ^ cutDigits n places precision = 0) :
    roundedValue n places precision = n / 10 ^ places := by
  rw [roundedValue, rounded_of_dvd exact, dropZeros_value]

theorem roundedValue_of_not_dvd (large : places < (Nat.toDigits 10 n).length + maxExponent)
    (several : 0 < precision) (inexact : n % 10 ^ cutDigits n places precision ≠ 0) :
    roundedValue n places precision = roundHalfEven n (10 ^ cutDigits n places precision) *
      10 ^ ((cutDigits n places precision : ℤ) - places) := by
  obtain ⟨units, scale, cut, -, -, same⟩ := rounded_of_not_dvd large several inexact
  rw [roundedValue, cut, shift_value, ← scaled_div_pow, same, scaled_div_pow]

theorem nearestEven_rounded (large : places < (Nat.toDigits 10 n).length + maxExponent)
    (several : 0 < precision) :
    NearestEven precision (n / 10 ^ places) (roundedValue n places precision) := by
  by_cases exact : n % 10 ^ cutDigits n places precision = 0
  · rw [roundedValue_of_dvd exact]
    exact .refl (significant_of_dvd large several exact)
  · obtain ⟨positive, longer⟩ := precision_lt_of_not_dvd large several exact
    have unit := lastUnit_quotient places positive several longer.le
    have close := roundHalfEven_quotient n places (cutDigits n places precision)
    rw [roundedValue_of_not_dvd large several exact]
    rw [← cutDigits_eq large several] at unit
    exact .of_multiple several (by positivity) unit close.1 close.2

/-- Digits are lost exactly when the quotient has too many significant digits. -/
theorem dvd_iff_significant (large : places < (Nat.toDigits 10 n).length + maxExponent)
    (several : 0 < precision) :
    n % 10 ^ cutDigits n places precision = 0 ↔ Significant precision (n / 10 ^ places) := by
  refine ⟨significant_of_dvd large several, fun fits => ?_⟩
  by_contra inexact
  have same := (nearestEven_rounded large several).eq_of_significant fits
  rw [roundedValue_of_not_dvd large several inexact, ← scaled_div_pow,
    div_left_inj' (by positivity)] at same
  apply inexact
  apply Nat.mod_eq_zero_of_dvd
  exact ⟨_, by rw [Nat.mul_comm]; exact_mod_cast same.symm⟩

/-- A rounded quotient is written down to its last significant digit, zeros included. -/
theorem rounded_places (large : places < (Nat.toDigits 10 n).length + maxExponent)
    (several : 0 < precision) (inexact : ¬ Significant precision ((n : ℚ) / 10 ^ places)) :
    ∃ k, LastUnit precision (roundedValue n places precision) k ∧
      (rounded n places precision).2 = (-k).toNat := by
  rw [← dvd_iff_significant large several] at inexact
  obtain ⟨units, scale, cut, least, most, -⟩ := rounded_of_not_dvd large several inexact
  refine ⟨(scale : ℤ) - places, ?_, ?_⟩
  · rw [roundedValue, cut, shift_value, LastUnit, abs_of_nonneg (by positivity)]
    have leastCast : (10 : ℚ) ^ (precision - 1) ≤ units := by exact_mod_cast least
    have mostCast : (units : ℚ) < 10 ^ precision := by exact_mod_cast most
    exact ⟨mul_le_mul_of_nonneg_right leastCast (by positivity),
      mul_lt_mul_of_pos_right mostCast (by positivity)⟩
  · rw [cut, shift_places]
    omega

theorem rounded_trimmed (large : places < (Nat.toDigits 10 n).length + maxExponent)
    (several : 0 < precision) (fits : Significant precision ((n : ℚ) / 10 ^ places)) :
    (rounded n places precision).2 = 0 ∨ (rounded n places precision).1 % 10 ≠ 0 := by
  rw [rounded_of_dvd ((dvd_iff_significant large several).mpr fits)]
  exact dropZeros_trimmed n places

theorem roundedValue_lt (positive : 0 < n) (several : 0 < precision)
    (range : InRange precision (n / 10 ^ places)) :
    roundedValue n places precision < 10 ^ ((maxExponent : ℤ) + 1) := by
  have large := places_lt_of_inRange positive range
  have nonzero : (n : ℚ) / 10 ^ places ≠ 0 := by positivity
  have high := (range.resolve_left nonzero).2
  rw [abs_of_nonneg (by positivity)] at high
  have room : (0 : ℚ) < 10 ^ ((maxExponent : ℤ) + 1 - precision) / 2 := by positivity
  by_cases exact : n % 10 ^ cutDigits n places precision = 0
  · rw [roundedValue_of_dvd exact]
    linarith
  · obtain ⟨-, longer⟩ := precision_lt_of_not_dvd large several exact
    have unit := (lastUnit_quotient places positive several longer.le).1
    rw [abs_of_nonneg (by positivity), ← cutDigits_eq large several] at unit
    have close := (abs_le.mp (roundHalfEven_quotient n places (cutDigits n places precision)).1).1
    have bound : (10 : ℚ) ^ (precision - 1) * 10 ^ ((cutDigits n places precision : ℤ) - places) <
        10 ^ ((maxExponent : ℤ) + 1) := by linarith
    rw [← zpow_natCast, ← zpow_add₀ (by norm_num), zpow_lt_zpow_iff_right₀ (by norm_num)] at bound
    have unit_le : (10 : ℚ) ^ ((cutDigits n places precision : ℤ) - places) ≤
        10 ^ ((maxExponent : ℤ) + 1 - precision) :=
      zpow_le_zpow_right₀ (by norm_num) (by omega)
    rw [roundedValue_of_not_dvd large several exact]
    linarith

end Magnitude

end WalletKit.Decimal
