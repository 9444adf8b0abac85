import Mathlib.Data.List.DropRight
import WalletKit.Proofs.Decimal.Quotient

set_option autoImplicit false

namespace WalletKit

open Digits

theorem fraction_rdropWhile_zero (cs : List Char) :
    (Nat.ofDigitChars 10 (cs.rdropWhile (· = '0')) 0 : ℚ) /
        10 ^ (cs.rdropWhile (· = '0')).length =
      Nat.ofDigitChars 10 cs 0 / 10 ^ cs.length := by
  induction cs using List.reverseRecOn with
  | nil => rfl
  | append_singleton cs c ih =>
      by_cases zero : c = '0'
      · subst zero
        rw [List.rdropWhile_concat_pos _ _ _ (by decide), ih, ofDigitChars_append,
          List.length_append, List.length_singleton, pow_one, pow_succ, mul_comm _ (10 : ℚ)]
        push_cast
        rw [show Nat.ofDigitChars 10 ['0'] 0 = 0 from rfl, Nat.cast_zero, add_zero,
          mul_div_mul_left _ _ (by norm_num)]
      · rw [List.rdropWhile_concat_neg _ _ _ (by simpa using zero)]

namespace PlainNumeral

/-- The numeral without the zeros at the end of its fraction. -/
def trimmed (x : PlainNumeral) : PlainNumeral :=
  { x with
    fraction := x.fraction.rdropWhile (· = '0')
    fraction_digits := fun c inside =>
      x.fraction_digits c ((List.rdropWhile_prefix _ _).subset inside) }

theorem value_trimmed (x : PlainNumeral) : x.trimmed.value = x.value := by
  rw [value, value]
  exact congrArg (fun fraction => signFactor x.negative * (_ + fraction))
    (fraction_rdropWhile_zero x.fraction)

theorem length_fraction_trimmed_le (x : PlainNumeral) :
    x.trimmed.fraction.length ≤ x.fraction.length :=
  (List.rdropWhile_prefix _ _).length_le

end PlainNumeral

namespace Decimal

/-- A factor of ten in the units is a zero at the end of the fraction. -/
theorem fractionDigits_succ {units : ℕ} (places : ℕ) (zero : units % 10 = 0) :
    fractionDigits units (places + 1) = fractionDigits (units / 10) places ++ ['0'] := by
  apply eq_of_ofDigitChars_eq
  · exact fun _ => isDigit_fractionDigits
  · rw [List.forall_mem_append, List.forall_mem_singleton]
    exact ⟨fun _ => isDigit_fractionDigits, rfl⟩
  · rw [List.length_append, length_fractionDigits, length_fractionDigits]
    rfl
  · rw [ofDigitChars_append, (ofDigitChars_parts _ _).2, (ofDigitChars_parts _ _).2,
      Nat.pow_succ', Nat.mod_mul, zero, Nat.zero_add]
    rfl

theorem wholeDigits_succ (units places : ℕ) :
    wholeDigits units (places + 1) = wholeDigits (units / 10) places := by
  rw [wholeDigits_eq, wholeDigits_eq, Nat.pow_succ', Nat.div_div_eq_div_mul]

theorem numeral_dropZeros (negative : Bool) (units places : ℕ) :
    numeral ⟨negative, (dropZeros units places).1, (dropZeros units places).2⟩ =
      (numeral ⟨negative, units, places⟩).trimmed := by
  induction places generalizing units with
  | zero =>
      have none : fractionDigits units 0 = [] := fractionDigits_eq_nil.mpr rfl
      apply PlainNumeral.ext
      · rfl
      · rfl
      · show fractionDigits units 0 = (fractionDigits units 0).rdropWhile (· = '0')
        rw [none, List.rdropWhile_nil]
  | succ places ih =>
      unfold dropZeros
      by_cases zero : units % 10 = 0
      · rw [if_pos zero, ih]
        apply PlainNumeral.ext
        · rfl
        · exact (wholeDigits_succ units places).symm
        · show (fractionDigits (units / 10) places).rdropWhile (· = '0') =
            (fractionDigits units (places + 1)).rdropWhile (· = '0')
          rw [fractionDigits_succ places zero, List.rdropWhile_concat_pos _ _ _ (by decide)]
      · rw [if_neg zero]
        apply PlainNumeral.ext
        · rfl
        · rfl
        · show fractionDigits units (places + 1) =
            (fractionDigits units (places + 1)).rdropWhile (· = '0')
          have last := getLast?_fractionDigits units (Nat.succ_pos places)
          obtain ⟨front, same⟩ := List.getLast?_eq_some_iff.mp last
          rw [same, List.rdropWhile_concat_neg]
          simpa using zero

/-- Zeros that are only filled in are dropped again. -/
theorem dropZeros_mul_pow (units places zeros : ℕ) :
    dropZeros (units * 10 ^ zeros) (places + zeros) = dropZeros units places := by
  induction zeros with
  | zero => rw [Nat.pow_zero, Nat.mul_one, Nat.add_zero]
  | succ zeros ih =>
      have filled : units * 10 ^ (zeros + 1) = units * 10 ^ zeros * 10 := by
        rw [Nat.pow_succ, Nat.mul_assoc]
      rw [← Nat.add_assoc, dropZeros, filled, if_pos (Nat.mul_mod_left _ _),
        Nat.mul_div_cancel _ (by decide), ih]

theorem rounded_places_le (n places precision : ℕ) :
    (rounded n places precision).2 ≤ places := by
  by_cases exact : n % 10 ^ cutDigits n places precision = 0
  · rw [rounded_of_dvd exact]
    exact dropZeros_places_le n places
  · rw [rounded_eq_of_not_dvd exact]
    split
    · rw [shift_places]
      exact Nat.sub_le _ _
    · rw [shift_places]
      exact Nat.sub_le _ _

/-- The number of smallest units that a rounded quotient stands for. -/
def roundedUnits (n places precision : ℕ) : ℕ :=
  (rounded n places precision).1 * 10 ^ (places - (rounded n places precision).2)

theorem roundedUnits_div (n places precision : ℕ) :
    (roundedUnits n places precision : ℚ) / 10 ^ places = roundedValue n places precision := by
  have fewer := rounded_places_le n places precision
  rw [roundedUnits, scaled_div_pow, roundedValue, div_eq_mul_inv, ← zpow_natCast, ← zpow_neg]
  congr 2
  omega

theorem roundedUnits_of_dvd {n places precision : ℕ}
    (exact : n % 10 ^ cutDigits n places precision = 0) :
    roundedUnits n places precision = n := by
  rw [roundedUnits, rounded_of_dvd exact]
  exact dropZeros_mul n places

/-- Digits that are all zeros from the `kept`-th on are a multiple of their power of ten. -/
theorem mod_eq_zero_of_zeros {n kept : ℕ}
    (zeros : ∀ digit ∈ (Nat.toDigits 10 n).drop kept, digit = '0') :
    n % 10 ^ ((Nat.toDigits 10 n).length - kept) = 0 := by
  have total := Nat.ofDigitChars_ten_toDigits (n := n)
  have filled := List.eq_replicate_of_mem zeros
  rw [← List.take_append_drop kept (Nat.toDigits 10 n), ofDigitChars_append, filled,
    Nat.ofDigitChars_replicate_zero, List.length_replicate, List.length_drop, Nat.mul_zero,
    Nat.add_zero] at total
  exact Nat.mod_eq_zero_of_dvd ⟨_, total.symm⟩

section Large

variable {n places precision : ℕ} (large : places < (Nat.toDigits 10 n).length + maxExponent)
  (several : 0 < precision)

include large several

theorem roundedUnits_of_zeros (zeros : ∀ digit ∈ (Nat.toDigits 10 n).drop precision, digit = '0') :
    roundedUnits n places precision = n := by
  have exact := mod_eq_zero_of_zeros zeros
  rw [← cutDigits_eq large several] at exact
  exact roundedUnits_of_dvd exact

/-- Rounding moves a number by at most half a unit of its last kept digit. -/
theorem roundedUnits_error :
    |(roundedUnits n places precision : ℚ) - n| ≤
      10 ^ ((Nat.toDigits 10 n).length - precision) / 2 := by
  rw [← cutDigits_eq large several]
  by_cases exact : n % 10 ^ cutDigits n places precision = 0
  · rw [roundedUnits_of_dvd exact, sub_self, abs_zero]
    positivity
  · have value := roundedUnits_div n places precision
    rw [roundedValue_of_not_dvd large several exact, ← scaled_div_pow,
      div_left_inj' (by positivity)] at value
    obtain ⟨low, high, -⟩ := roundHalfEven_error n
      (Nat.pow_pos (by decide) : 0 < 10 ^ cutDigits n places precision)
    have lowCast : (2 * n : ℚ) ≤ 2 * (roundHalfEven n (10 ^ cutDigits n places precision) *
        10 ^ cutDigits n places precision : ℕ) + 10 ^ cutDigits n places precision := by
      exact_mod_cast low
    have highCast : (2 * (roundHalfEven n (10 ^ cutDigits n places precision) *
        10 ^ cutDigits n places precision : ℕ) : ℚ) ≤
          2 * n + 10 ^ cutDigits n places precision := by
      exact_mod_cast high
    rw [value, abs_le]
    constructor <;> linarith

end Large

theorem places_lt_of_le {places : ℕ} (few : places ≤ maxExponent) (n : ℕ) :
    places < (Nat.toDigits 10 n).length + maxExponent := by
  have digits : 0 < (Nat.toDigits 10 n).length := Nat.length_toDigits_pos
  omega

/-- The rounded quotient is exact when it is divided again, and only loses zeros. -/
theorem rounded_roundedUnits {places precision : ℕ} (n : ℕ) (few : places ≤ maxExponent)
    (several : 0 < precision) :
    rounded (roundedUnits n places precision) places precision =
      dropZeros (rounded n places precision).1 (rounded n places precision).2 := by
  have fits : Significant precision ((roundedUnits n places precision : ℚ) / 10 ^ places) := by
    rw [roundedUnits_div]
    exact (nearestEven_rounded (places_lt_of_le few n) several).significant
  have filled := dropZeros_mul_pow (rounded n places precision).1 (rounded n places precision).2
    (places - (rounded n places precision).2)
  rw [Nat.add_sub_cancel' (rounded_places_le n places precision)] at filled
  rw [rounded_of_dvd ((dvd_iff_significant (places_lt_of_le few _) several).mpr fits)]
  exact filled

end Decimal

end WalletKit
