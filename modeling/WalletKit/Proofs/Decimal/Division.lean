import WalletKit.Proofs.Decimal.Quotient

set_option autoImplicit false

namespace WalletKit

theorem signFactor_mul_natAbs (v : ℤ) : signFactor (v < 0) * v.natAbs = v := by
  rw [Nat.cast_natAbs, Int.cast_abs]
  by_cases negative : v < 0
  · have cast : (v : ℚ) < 0 := by exact_mod_cast negative
    rw [signFactor, decide_eq_true negative, if_pos rfl, abs_of_neg cast]
    ring
  · have cast : (0 : ℚ) ≤ v := by exact_mod_cast not_lt.mp negative
    rw [signFactor, decide_eq_false negative, if_neg Bool.false_ne_true, abs_of_nonneg cast,
      one_mul]

theorem NearestEven.signFactor {p : ℕ} {q r : ℚ} (rounded : NearestEven p q r) (negative : Bool) :
    NearestEven p (signFactor negative * q) (signFactor negative * r) := by
  cases negative with
  | false => simpa [WalletKit.signFactor] using rounded
  | true => simpa [WalletKit.signFactor] using rounded.neg

theorem Significant.signFactor_iff {p : ℕ} {q : ℚ} (negative : Bool) :
    Significant p (signFactor negative * q) ↔ Significant p q := by
  cases negative with
  | false => simp [signFactor]
  | true =>
      simp only [signFactor, if_true, neg_one_mul]
      exact ⟨fun fits => by simpa using fits.neg, Significant.neg⟩

theorem LastUnit.signFactor {p : ℕ} {x : ℚ} {k : ℤ} (unit : LastUnit p x k) (negative : Bool) :
    LastUnit p (signFactor negative * x) k := by
  cases negative with
  | false => simpa [WalletKit.signFactor] using unit
  | true => simpa [WalletKit.signFactor] using unit.neg

namespace Decimal

open Digits

theorem inRange_natCast_iff {p n places : ℕ} :
    InRange p (((n : ℤ) : ℚ) / 10 ^ places) ↔ InRange p (n / 10 ^ places) := by
  rw [Int.cast_natCast]

theorem InRange.natAbs {p places : ℕ} {v : ℤ} (range : InRange p (v / 10 ^ places)) :
    InRange p (v.natAbs / 10 ^ places) := by
  have magnitude : (v.natAbs : ℚ) / 10 ^ places = |(v : ℚ) / 10 ^ places| := by
    rw [abs_div, abs_of_pos (by positivity : (0 : ℚ) < 10 ^ places), Nat.cast_natAbs, Int.cast_abs]
  rw [magnitude, InRange, abs_eq_zero, abs_abs]
  exact range

theorem rounded_zero (places precision : ℕ) : rounded 0 places precision = (0, 0) := by
  rw [rounded_of_dvd (Nat.zero_mod _), dropZeros_zero]

section Quotient

variable {v : ℤ} {places precision : ℕ}

theorem quotient_eq (v : ℤ) (places precision : ℕ) :
    quotient v places precision =
      ⟨v < 0, (rounded v.natAbs places precision).1, (rounded v.natAbs places precision).2⟩ := rfl

theorem quotient_natCast (n places precision : ℕ) :
    quotient n places precision =
      ⟨false, (rounded n places precision).1, (rounded n places precision).2⟩ := by
  rw [quotient_eq, Int.natAbs_natCast]
  exact congrArg (Decimal.mk · _ _) (decide_eq_false (by omega))

theorem value_quotient (v : ℤ) (places precision : ℕ) :
    (quotient v places precision).value =
      signFactor (v < 0) * roundedValue v.natAbs places precision := rfl

theorem quotient_eq_signFactor (v : ℤ) (places : ℕ) :
    (v : ℚ) / 10 ^ places = signFactor (v < 0) * (v.natAbs / 10 ^ places) := by
  rw [← mul_div_assoc, signFactor_mul_natAbs]

theorem nearestEven_quotient (several : 0 < precision)
    (range : InRange precision (v / 10 ^ places)) :
    NearestEven precision (v / 10 ^ places) (quotient v places precision).value := by
  rw [quotient_eq_signFactor, value_quotient]
  apply NearestEven.signFactor
  rcases Nat.eq_zero_or_pos v.natAbs with zero | positive
  · rw [zero, roundedValue, rounded_zero, Nat.cast_zero, zero_div, zero_div]
    exact .refl (significant_zero precision)
  · exact nearestEven_rounded (places_lt_of_inRange positive range.natAbs) several

/-- An exact quotient has a fraction only if it is no whole number, and no zero at its end. -/
theorem fraction_of_significant (several : 0 < precision)
    (range : InRange precision (v / 10 ^ places))
    (fits : Significant precision ((v : ℚ) / 10 ^ places)) :
    (quotient v places precision).places = 0 ∨ (quotient v places precision).units % 10 ≠ 0 := by
  rw [quotient_eq]
  rcases Nat.eq_zero_or_pos v.natAbs with zero | positive
  · rw [zero, rounded_zero]
    exact Or.inl rfl
  · rw [quotient_eq_signFactor, Significant.signFactor_iff] at fits
    exact rounded_trimmed (places_lt_of_inRange positive range.natAbs) several fits

theorem places_of_not_significant (several : 0 < precision)
    (range : InRange precision (v / 10 ^ places))
    (inexact : ¬ Significant precision ((v : ℚ) / 10 ^ places)) :
    ∃ k, LastUnit precision (quotient v places precision).value k ∧
      (quotient v places precision).places = (-k).toNat := by
  have positive : 0 < v.natAbs := by
    apply Nat.pos_of_ne_zero
    intro zero
    rw [Int.natAbs_eq_zero.mp zero, Int.cast_zero, zero_div] at inexact
    exact inexact (significant_zero precision)
  rw [quotient_eq_signFactor, Significant.signFactor_iff] at inexact
  obtain ⟨k, unit, same⟩ :=
    rounded_places (places_lt_of_inRange positive range.natAbs) several inexact
  exact ⟨k, unit.signFactor _, same⟩

theorem not_exceeds (several : 0 < precision) (range : InRange precision (v / 10 ^ places)) :
    (quotient v places precision).exceeds = false := by
  have bounded : (rounded v.natAbs places precision).1 <
      10 ^ (maxExponent + (rounded v.natAbs places precision).2 + 1) := by
    rcases Nat.eq_zero_or_pos v.natAbs with zero | positive
    · rw [zero, rounded_zero]
      exact Nat.pow_pos (by decide)
    · have below := roundedValue_lt positive several range.natAbs
      rw [roundedValue, div_lt_iff₀ (by positivity), ← Nat.cast_add_one, zpow_natCast,
        ← pow_add] at below
      rw [Nat.add_right_comm]
      exact_mod_cast below
  rw [exceeds, decide_eq_false_iff_not, quotient_eq, Nat.not_lt]
  exact (length_toDigits_le_iff (Nat.succ_pos _)).mpr bounded

/-- A dividend of not too many digits is never too large, also when few of its digits are kept. -/
theorem not_exceeds_of_length (several : 0 < precision)
    (short : (Nat.toDigits 10 v.natAbs).length ≤ maxExponent) :
    (quotient v places precision).exceeds = false := by
  have bounded := rounded_lt v.natAbs places several
  rw [exceeds, decide_eq_false_iff_not, quotient_eq, Nat.not_lt]
  refine ((length_toDigits_le_iff (Nat.succ_pos _)).mpr bounded).trans ?_
  dsimp only
  omega

end Quotient

theorem checkPrecision_eq {precision : ℕ} (several : 1 ≤ precision)
    (precise : precision ≤ maxPrecision) : checkPrecision precision = .ok precision := by
  unfold maxPrecision at precise
  have word : ¬ ((precision : ℤ) < -wordBound ∨ wordBound ≤ (precision : ℤ)) := by
    unfold wordBound
    omega
  have valid : ¬ ((precision : ℤ) < 1 ∨ maxPrecision < (precision : ℤ)) := by
    unfold maxPrecision
    omega
  rw [checkPrecision, if_neg word, if_neg valid, Int.toNat_natCast]

theorem divide_of_checked {precision : ℤ} {digits : ℕ}
    (checked : checkPrecision precision = .ok digits) (v : ℤ) (places : ℕ) :
    divide v places precision =
      if (quotient v places digits).exceeds then .error .overflow
      else .ok (quotient v places digits).plain := by
  rw [divide, checked]
  rfl

/-- A division by a valid precision gives the text of the quotient unless that is too large. -/
theorem divide_eq {precision : ℕ} (v : ℤ) (places : ℕ) (several : 1 ≤ precision)
    (precise : precision ≤ maxPrecision) :
    divide v places precision =
      if (quotient v places precision).exceeds then .error .overflow
      else .ok (quotient v places precision).numeral.text := by
  rw [divide_of_checked (checkPrecision_eq several precise), text_numeral]

theorem divide_of_inRange {v : ℤ} {places precision : ℕ} (several : 1 ≤ precision)
    (precise : precision ≤ maxPrecision) (range : InRange precision (v / 10 ^ places)) :
    divide v places precision = .ok (quotient v places precision).numeral.text := by
  rw [divide_eq v places several precise, not_exceeds several range]
  rfl

/-- Zeros at the end of a fraction show in the units. -/
theorem getLast?_fraction_ne_zero {x : Decimal} (trimmed : x.places = 0 ∨ x.units % 10 ≠ 0) :
    x.numeral.fraction.getLast? ≠ some '0' := by
  rcases Nat.eq_zero_or_pos x.places with none | positive
  · have empty : x.numeral.fraction = [] := fractionDigits_eq_nil.mpr none
    rw [empty]
    exact Option.some_ne_none _ |>.symm
  · have last := getLast?_fractionDigits x.units positive
    have nonzero := trimmed.resolve_left positive.ne'
    show (fractionDigits x.units x.places).getLast? ≠ _
    rw [last, ne_eq, Option.some.injEq, Nat.digitChar_eq_zero]
    exact nonzero

theorem abs_value (x : Decimal) : |x.value| = x.units / 10 ^ x.places := by
  have unsigned : |signFactor x.negative| = 1 := by
    cases x.negative <;> simp [signFactor]
  rw [value, abs_mul, unsigned, one_mul, abs_of_nonneg (by positivity)]

theorem fraction_eq_nil_of_integer {x : Decimal} (trimmed : x.places = 0 ∨ x.units % 10 ≠ 0)
    {z : ℤ} (integer : x.value = z) : x.numeral.fraction = [] := by
  apply fractionDigits_eq_nil.mpr
  by_contra some
  apply trimmed.resolve_left some
  have product := abs_value x
  rw [integer, eq_div_iff (by positivity), ← Int.cast_abs, Int.abs_eq_natAbs] at product
  have units : z.natAbs * 10 ^ x.places = x.units := by exact_mod_cast product
  rw [← units]
  exact Nat.mod_eq_zero_of_dvd ((dvd_pow_self 10 some).mul_left _)

theorem InRange.of_digits {v : ℤ} {places precision : ℕ} (nonzero : v ≠ 0)
    (several : 1 ≤ precision)
    (low : places < (Nat.toDigits 10 v.natAbs).length + maxExponent)
    (high : (Nat.toDigits 10 v.natAbs).length ≤ maxExponent + places) :
    InRange precision (v / 10 ^ places) := by
  have lower := pow_le_of_length_toDigits (Int.natAbs_pos.mpr nonzero)
  have upper := lt_pow_length_toDigits v.natAbs
  generalize (Nat.toDigits 10 v.natAbs).length = digits at *
  have one : (0 : ℚ) < 10 ^ places := by positivity
  have magnitude : |(v : ℚ) / 10 ^ places| = v.natAbs / 10 ^ places := by
    rw [abs_div, abs_of_pos one, Nat.cast_natAbs, Int.cast_abs]
  right
  rw [magnitude]
  constructor
  · rw [le_div_iff₀ one, ← zpow_natCast, ← zpow_add₀ (by norm_num)]
    calc (10 : ℚ) ^ (-(maxExponent : ℤ) + places) ≤ 10 ^ ((digits - 1 : ℕ) : ℤ) :=
          zpow_le_zpow_right₀ (by norm_num) (by omega)
      _ ≤ v.natAbs := by exact_mod_cast lower
  · have below : (v.natAbs : ℚ) / 10 ^ places < 10 ^ (maxExponent : ℤ) := by
      rw [div_lt_iff₀ one, ← zpow_natCast _ places, ← zpow_add₀ (by norm_num)]
      calc (v.natAbs : ℚ) < 10 ^ (digits : ℤ) := by exact_mod_cast upper
        _ ≤ 10 ^ ((maxExponent : ℤ) + places) := zpow_le_zpow_right₀ (by norm_num) (by omega)
    have half : (10 : ℚ) ^ ((maxExponent : ℤ) + 1 - precision) ≤ 10 ^ (maxExponent : ℤ) :=
      zpow_le_zpow_right₀ (by norm_num) (by omega)
    have ten : (10 : ℚ) ^ ((maxExponent : ℤ) + 1) = 10 ^ (maxExponent : ℤ) * 10 := by
      rw [zpow_add₀ (by norm_num), zpow_one]
    have positive : (0 : ℚ) < 10 ^ (maxExponent : ℤ) := by positivity
    linarith

/-- A division gives the nearest number of `precision` digits in plain notation. -/
theorem divide_correctly_rounded (v : ℤ) (places precision : ℕ) (several : 1 ≤ precision)
    (precise : precision ≤ maxPrecision) (range : InRange precision (v / 10 ^ places)) :
    ∃ x : PlainNumeral, divide v places precision = .ok x.text ∧ (x.negative = true ↔ v < 0) ∧
      NearestEven precision (v / 10 ^ places) x.value ∧
      (Significant precision ((v : ℚ) / 10 ^ places) →
        x.value = v / 10 ^ places ∧ x.fraction.getLast? ≠ some '0' ∧
          ((∃ z : ℤ, (v : ℚ) / 10 ^ places = z) → x.fraction = [])) ∧
      (¬ Significant precision ((v : ℚ) / 10 ^ places) →
        ∃ k, LastUnit precision x.value k ∧ x.fraction.length = (-k).toNat) := by
  have nearest := nearestEven_quotient several range
  rw [← value_numeral] at nearest
  refine ⟨(quotient v places precision).numeral, ?_, decide_eq_true_iff, nearest, ?_, ?_⟩
  · rw [divide_eq v places several precise, not_exceeds several range]
    rfl
  · intro fits
    have trimmed := fraction_of_significant several range fits
    have same := nearest.eq_of_significant fits
    refine ⟨same, getLast?_fraction_ne_zero trimmed, ?_⟩
    rintro ⟨z, integer⟩
    exact fraction_eq_nil_of_integer trimmed (by rw [← value_numeral, same, integer])
  · intro inexact
    obtain ⟨k, unit, length⟩ := places_of_not_significant several range inexact
    refine ⟨k, by rwa [value_numeral], ?_⟩
    rw [← length]
    exact length_fractionDigits _ _

/-- A half goes to the even digit, also below zero. -/
theorem divide_correctly_rounded_half :
    InRange 7 ((-12345675 : ℤ) / 10 ^ 8) ∧
      ∃ x : PlainNumeral, divide (-12345675) 8 7 = .ok x.text ∧
        NearestEven 7 ((-12345675 : ℤ) / 10 ^ 8) x.value := by
  have range : InRange 7 ((-12345675 : ℤ) / 10 ^ 8) :=
    .of_digits (by decide) (by decide) (by decide +kernel) (by decide +kernel)
  obtain ⟨x, text, -, nearest, -⟩ := divide_correctly_rounded (-12345675) 8 7
    (by decide) (by decide) range
  exact ⟨range, x, text, nearest⟩

end Decimal

end WalletKit
