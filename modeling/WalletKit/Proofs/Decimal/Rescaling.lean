import WalletKit.Proofs.Decimal.Division
import WalletKit.Proofs.Decimal.Trimming

set_option autoImplicit false

namespace WalletKit

theorem roundHalfEven_mul_right (n d : ℕ) {k : ℕ} (positive : 0 < k) :
    roundHalfEven (n * k) (d * k) = roundHalfEven n d := by
  have quotient : n * k / (d * k) = n / d := Nat.mul_div_mul_right n d positive
  have remainder : n * k % (d * k) = n % d * k := Nat.mul_mod_mul_right k n d
  have below : 2 * (n % d * k) < d * k ↔ 2 * (n % d) < d := by
    rw [← Nat.mul_assoc, Nat.mul_lt_mul_right positive]
  have above : d * k < 2 * (n % d * k) ↔ d < 2 * (n % d) := by
    rw [← Nat.mul_assoc, Nat.mul_lt_mul_right positive]
  simp only [roundHalfEven, quotient, remainder, below, above]

namespace Digits

theorem length_toDigits_mul_pow {n : ℕ} (positive : 0 < n) (k : ℕ) :
    (Nat.toDigits 10 (n * 10 ^ k)).length = (Nat.toDigits 10 n).length + k := by
  induction k with
  | zero => rw [Nat.pow_zero, Nat.mul_one, Nat.add_zero]
  | succ k ih =>
      have larger : 0 < n * 10 ^ k := Nat.mul_pos positive (Nat.pow_pos (by decide))
      have next : n * 10 ^ (k + 1) = 10 * (n * 10 ^ k) + 0 := by
        rw [Nat.pow_succ, ← Nat.mul_assoc]
        omega
      rw [next, ← Nat.toDigits_append_toDigits (by decide) larger (by decide), List.length_append,
        ih, Nat.toDigits_zero]
      rfl

end Digits

namespace Decimal

open Digits

theorem shift_add (units scale places k : ℕ) :
    shift units (scale + k) (places + k) = shift units scale places := by
  rw [shift_eq, shift_eq, Nat.add_sub_add_right, Nat.add_sub_add_right,
    if_congr (Nat.add_le_add_iff_right) rfl rfl]

/-- Of the zeros that are added all are cut, or only some where no digit was cut before. -/
theorem cutDigits_mul_pow {n : ℕ} (positive : 0 < n) (places k precision : ℕ) :
    cutDigits (n * 10 ^ k) (places + k) precision = cutDigits n places precision + k ∨
      cutDigits n places precision = 0 ∧ cutDigits (n * 10 ^ k) (places + k) precision ≤ k := by
  unfold cutDigits
  rw [length_toDigits_mul_pow positive]
  omega

theorem mul_pow_mod_eq_zero_iff (n cut k : ℕ) :
    n * 10 ^ k % 10 ^ (cut + k) = 0 ↔ n % 10 ^ cut = 0 := by
  have unit : 10 ^ k ≠ 0 := (Nat.pow_pos (by decide)).ne'
  rw [Nat.pow_add, Nat.mul_mod_mul_right, Nat.mul_eq_zero, or_iff_left unit]

section Cut

variable {n places precision : ℕ} (k : ℕ)

theorem rounded_of_exact_mul_pow (exact : n % 10 ^ cutDigits n places precision = 0)
    (exactAgain : n * 10 ^ k % 10 ^ cutDigits (n * 10 ^ k) (places + k) precision = 0) :
    rounded (n * 10 ^ k) (places + k) precision = rounded n places precision := by
  rw [rounded_of_dvd exact, rounded_of_dvd exactAgain, dropZeros_mul_pow]

theorem rounded_of_inexact_mul_pow (inexact : n % 10 ^ cutDigits n places precision ≠ 0)
    (cut : cutDigits (n * 10 ^ k) (places + k) precision = cutDigits n places precision + k) :
    rounded (n * 10 ^ k) (places + k) precision = rounded n places precision := by
  have inexactAgain : n * 10 ^ k % 10 ^ cutDigits (n * 10 ^ k) (places + k) precision ≠ 0 := by
    rwa [cut, ne_eq, mul_pow_mod_eq_zero_iff]
  have kept : roundHalfEven (n * 10 ^ k) (10 ^ (cutDigits n places precision + k)) =
      roundHalfEven n (10 ^ cutDigits n places precision) := by
    rw [Nat.pow_add, roundHalfEven_mul_right _ _ (Nat.pow_pos (by decide))]
  rw [rounded_eq_of_not_dvd inexact, rounded_eq_of_not_dvd inexactAgain, cut, kept,
    Nat.add_right_comm, shift_add, shift_add]

end Cut

/-- Digits and places of a rounded quotient depend on the quotient alone. -/
theorem rounded_mul_pow (n places k precision : ℕ) :
    rounded (n * 10 ^ k) (places + k) precision = rounded n places precision := by
  rcases Nat.eq_zero_or_pos n with rfl | positive
  · rw [Nat.zero_mul, rounded_zero, rounded_zero]
  rcases cutDigits_mul_pow positive places k precision with cut | ⟨whole, few⟩
  · by_cases exact : n % 10 ^ cutDigits n places precision = 0
    · apply rounded_of_exact_mul_pow k exact
      rwa [cut, mul_pow_mod_eq_zero_iff]
    · exact rounded_of_inexact_mul_pow k exact cut
  · apply rounded_of_exact_mul_pow k
    · rw [whole, Nat.pow_zero, Nat.mod_one]
    · apply Nat.mod_eq_zero_of_dvd
      exact (Nat.pow_dvd_pow 10 few).mul_left n

theorem quotient_mul_pow (v : ℤ) (places k precision : ℕ) :
    quotient (v * 10 ^ k) (places + k) precision = quotient v places precision := by
  have magnitude : (v * 10 ^ k).natAbs = v.natAbs * 10 ^ k := by
    rw [Int.natAbs_mul, Int.natAbs_pow]
    rfl
  have sign : v * 10 ^ k < 0 ↔ v < 0 := by
    constructor
    · intro negative
      exact neg_of_mul_neg_left negative (by positivity)
    · intro negative
      exact mul_neg_of_neg_of_pos negative (by positivity)
  rw [quotient_eq, quotient_eq, magnitude, rounded_mul_pow, decide_eq_decide.mpr sign]

/-- A division gives the same text, or fails for the same reason. -/
theorem divide_mul_pow (v : ℤ) (places k : ℕ) (precision : ℤ) :
    divide (v * 10 ^ k) (places + k) precision = divide v places precision := by
  simp only [divide, quotient_mul_pow]

theorem quotient_neg {v : ℤ} (positive : 0 < v) (places precision : ℕ) :
    quotient (-v) places precision = { quotient v places precision with negative := true } := by
  rw [quotient_eq, quotient_eq, Int.natAbs_neg, decide_eq_true (Int.neg_neg_of_pos positive)]

theorem plain_negative {x : Decimal} (unsigned : x.negative = false) :
    plain { x with negative := true } = "-" ++ x.plain := by
  apply String.toList_inj.mp
  simp [plain, unsigned]

theorem divide_neg {v : ℤ} (positive : 0 < v) (places : ℕ) (precision : ℤ) :
    divide (-v) places precision = (divide v places precision).map ("-" ++ ·) := by
  cases checked : checkPrecision precision with
  | error failure =>
      rw [divide, divide, checked]
      rfl
  | ok digits =>
      have unsigned : (quotient v places digits).negative = false := decide_eq_false (by omega)
      have size : exceeds { quotient v places digits with negative := true } =
          (quotient v places digits).exceeds := rfl
      rw [divide_of_checked checked, divide_of_checked checked, quotient_neg positive,
        plain_negative unsigned, size]
      split <;> rfl

end Decimal

end WalletKit
