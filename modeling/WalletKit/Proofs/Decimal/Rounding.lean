import Mathlib.Tactic.Linarith
import Mathlib.Tactic.Ring
import WalletKit.Proofs.Decimal.PlainNotation
import WalletKit.Proofs.Decimal.Significance

set_option autoImplicit false

namespace WalletKit

/-- Half a divisor bounds the error, and only an even number is half a divisor away. -/
theorem roundHalfEven_error (n : ℕ) {d : ℕ} (positive : 0 < d) :
    2 * n ≤ 2 * (roundHalfEven n d * d) + d ∧ 2 * (roundHalfEven n d * d) ≤ 2 * n + d ∧
      (2 * n = 2 * (roundHalfEven n d * d) + d ∨ 2 * (roundHalfEven n d * d) = 2 * n + d →
        roundHalfEven n d % 2 = 0) := by
  have total := Nat.div_add_mod n d
  have small := Nat.mod_lt n positive
  have next : (n / d + 1) * d = n / d * d + d := by ring
  rw [Nat.mul_comm d] at total
  unfold roundHalfEven
  dsimp only
  split_ifs <;> (try rw [next]) <;> omega

theorem div_le_roundHalfEven (n d : ℕ) : n / d ≤ roundHalfEven n d := by
  unfold roundHalfEven
  dsimp only
  split_ifs <;> omega

theorem roundHalfEven_le_div_succ (n d : ℕ) : roundHalfEven n d ≤ n / d + 1 := by
  unfold roundHalfEven
  dsimp only
  split_ifs <;> omega

namespace Decimal

open Digits

theorem shift_eq (units scale places : ℕ) :
    shift units scale places =
      if scale ≤ places then (units, places - scale)
      else (units * 10 ^ (scale - places), 0) := rfl

theorem shift_units (units scale places : ℕ) :
    (shift units scale places).1 = units * 10 ^ (scale - places) := by
  rw [shift_eq]
  split
  · rename_i before
    rw [Nat.sub_eq_zero_of_le before, Nat.pow_zero, Nat.mul_one]
  · rfl

theorem shift_places (units scale places : ℕ) : (shift units scale places).2 = places - scale := by
  rw [shift_eq]
  split
  · rfl
  · exact (Nat.sub_eq_zero_of_le (by omega)).symm

theorem shift_value (units scale places : ℕ) :
    ((shift units scale places).1 : ℚ) / 10 ^ (shift units scale places).2 =
      units * 10 ^ ((scale : ℤ) - places) := by
  rw [shift_eq]
  split
  · rename_i before
    have power : ((scale : ℤ) - places) = -((places - scale : ℕ) : ℤ) := by omega
    rw [power, zpow_neg, zpow_natCast, div_eq_mul_inv]
  · have power : ((scale : ℤ) - places) = ((scale - places : ℕ) : ℤ) := by omega
    rw [power, zpow_natCast, pow_zero, div_one]
    push_cast
    rfl

theorem dropZeros_places_le (units places : ℕ) : (dropZeros units places).2 ≤ places := by
  induction places generalizing units with
  | zero => exact Nat.le_refl _
  | succ places ih =>
      unfold dropZeros
      split
      · exact (ih _).trans (Nat.le_succ _)
      · exact Nat.le_refl _

theorem dropZeros_mul (units places : ℕ) :
    (dropZeros units places).1 * 10 ^ (places - (dropZeros units places).2) = units := by
  induction places generalizing units with
  | zero => exact Nat.mul_one _
  | succ places ih =>
      unfold dropZeros
      split
      · rename_i zero
        have fewer := dropZeros_places_le (units / 10) places
        rw [Nat.succ_sub fewer, Nat.pow_succ, ← Nat.mul_assoc, ih]
        exact Nat.div_mul_cancel (Nat.dvd_of_mod_eq_zero zero)
      · rw [Nat.sub_self, Nat.pow_zero, Nat.mul_one]

theorem dropZeros_trimmed (units places : ℕ) :
    (dropZeros units places).2 = 0 ∨ (dropZeros units places).1 % 10 ≠ 0 := by
  induction places generalizing units with
  | zero => exact Or.inl rfl
  | succ places ih =>
      unfold dropZeros
      split
      · exact ih _
      · exact Or.inr ‹_›

theorem dropZeros_zero (places : ℕ) : dropZeros 0 places = (0, 0) := by
  induction places with
  | zero => rfl
  | succ places ih => simpa [dropZeros] using ih

theorem dropZeros_value (units places : ℕ) :
    ((dropZeros units places).1 : ℚ) / 10 ^ (dropZeros units places).2 = units / 10 ^ places := by
  have fewer := dropZeros_places_le units places
  have product := dropZeros_mul units places
  have power : (10 : ℚ) ^ places =
      10 ^ (places - (dropZeros units places).2) * 10 ^ (dropZeros units places).2 := by
    rw [← pow_add, Nat.sub_add_cancel fewer]
  have cast : (units : ℚ) =
      10 ^ (places - (dropZeros units places).2) * (dropZeros units places).1 := by
    rw [mul_comm]
    exact_mod_cast product.symm
  rw [cast, power, mul_div_mul_left _ _ (by positivity)]

/-- How many digits a quotient loses when its leading digit does not stand for too little. -/
theorem cutDigits_eq {n places precision : ℕ}
    (large : places < (Nat.toDigits 10 n).length + maxExponent) (positive : 0 < precision) :
    cutDigits n places precision = (Nat.toDigits 10 n).length - precision := by
  unfold cutDigits maxPlaces
  omega

theorem rounded_of_dvd {n places precision : ℕ}
    (exact : n % 10 ^ cutDigits n places precision = 0) :
    rounded n places precision = dropZeros n places :=
  if_pos exact

theorem rounded_eq_of_not_dvd {n places precision : ℕ}
    (inexact : n % 10 ^ cutDigits n places precision ≠ 0) :
    rounded n places precision =
      if roundHalfEven n (10 ^ cutDigits n places precision) = 10 ^ precision then
        shift (10 ^ (precision - 1)) (cutDigits n places precision + 1) places
      else shift (roundHalfEven n (10 ^ cutDigits n places precision))
        (cutDigits n places precision) places :=
  if_neg inexact

/-- An inexact quotient keeps `precision` digits, the first of them no zero. -/
theorem rounded_of_not_dvd {n places precision : ℕ}
    (large : places < (Nat.toDigits 10 n).length + maxExponent) (positive : 0 < precision)
    (inexact : n % 10 ^ cutDigits n places precision ≠ 0) :
    ∃ units scale, rounded n places precision = shift units scale places ∧
      10 ^ (precision - 1) ≤ units ∧ units < 10 ^ precision ∧
      units * 10 ^ scale = roundHalfEven n (10 ^ cutDigits n places precision) *
        10 ^ cutDigits n places precision := by
  have cut := cutDigits_eq large positive
  rw [cut] at inexact ⊢
  have longer : precision < (Nat.toDigits 10 n).length := by
    by_contra short
    rw [Nat.sub_eq_zero_of_le (Nat.le_of_not_lt short), Nat.pow_zero, Nat.mod_one] at inexact
    exact inexact rfl
  have nonzero : 0 < n := by
    by_contra zero
    rw [Nat.eq_zero_of_not_pos zero, Nat.zero_mod] at inexact
    exact inexact rfl
  have lower := pow_le_of_length_toDigits nonzero
  have upper := lt_pow_length_toDigits n
  generalize (Nat.toDigits 10 n).length = digits at *
  have lowerSplit : 10 ^ (digits - 1) = 10 ^ (precision - 1) * 10 ^ (digits - precision) := by
    rw [← Nat.pow_add]
    congr 1
    omega
  have upperSplit : 10 ^ digits = 10 ^ precision * 10 ^ (digits - precision) := by
    rw [← Nat.pow_add]
    congr 1
    omega
  have unit : 0 < 10 ^ (digits - precision) := Nat.pow_pos (by decide)
  have least : 10 ^ (precision - 1) ≤ roundHalfEven n (10 ^ (digits - precision)) :=
    ((Nat.le_div_iff_mul_le unit).mpr (lowerSplit ▸ lower)).trans (div_le_roundHalfEven _ _)
  have most : roundHalfEven n (10 ^ (digits - precision)) ≤ 10 ^ precision :=
    (roundHalfEven_le_div_succ _ _).trans ((Nat.div_lt_iff_lt_mul unit).mpr (upperSplit ▸ upper))
  rw [rounded_eq_of_not_dvd (by rwa [cut]), cut]
  split
  · rename_i carried
    refine ⟨10 ^ (precision - 1), digits - precision + 1, rfl, Nat.le_refl _,
      Nat.pow_lt_pow_right (by decide) (by omega), ?_⟩
    rw [carried, ← Nat.pow_add, ← Nat.pow_add]
    congr 1
    omega
  · rename_i fits
    exact ⟨_, _, rfl, least, Nat.lt_of_le_of_ne most fits, rfl⟩

/-- Whatever its exponent, a rounded quotient has at most one digit more than the dividend. -/
theorem rounded_lt (n places : ℕ) {precision : ℕ} (positive : 0 < precision) :
    (rounded n places precision).1 < 10 ^ ((Nat.toDigits 10 n).length + 1) := by
  have dividend := lt_pow_length_toDigits n
  have next : 10 ^ ((Nat.toDigits 10 n).length + 1) = 10 ^ (Nat.toDigits 10 n).length * 10 :=
    Nat.pow_succ 10 _
  have fill : cutDigits n places precision - places ≤ (Nat.toDigits 10 n).length := by
    unfold cutDigits
    omega
  by_cases exact : n % 10 ^ cutDigits n places precision = 0
  · rw [rounded_of_dvd exact]
    have dropped := dropZeros_mul n places
    have fewer := Nat.le_mul_of_pos_right (dropZeros n places).1
      (Nat.pow_pos (by decide) : 0 < 10 ^ (places - (dropZeros n places).2))
    omega
  · rw [rounded_eq_of_not_dvd exact]
    generalize cutDigits n places precision = cut at fill ⊢
    have kept : roundHalfEven n (10 ^ cut) * 10 ^ (cut - places) ≤
        n + 10 ^ (Nat.toDigits 10 n).length := by
      calc roundHalfEven n (10 ^ cut) * 10 ^ (cut - places)
          ≤ (n / 10 ^ cut + 1) * 10 ^ (cut - places) :=
            Nat.mul_le_mul_right _ (roundHalfEven_le_div_succ n _)
        _ = n / 10 ^ cut * 10 ^ (cut - places) + 10 ^ (cut - places) := by ring
        _ ≤ n / 10 ^ cut * 10 ^ cut + 10 ^ (Nat.toDigits 10 n).length :=
            Nat.add_le_add (Nat.mul_le_mul_left _ (Nat.pow_le_pow_right (by decide) (by omega)))
              (Nat.pow_le_pow_right (by decide) fill)
        _ ≤ n + 10 ^ (Nat.toDigits 10 n).length :=
            Nat.add_le_add_right (Nat.div_mul_le_self _ _) _
    split
    · rename_i carried
      have moved : 10 ^ (precision - 1) * 10 ^ (cut + 1 - places) ≤
          roundHalfEven n (10 ^ cut) * 10 ^ (cut - places) := by
        rw [carried, ← Nat.pow_add, ← Nat.pow_add]
        exact Nat.pow_le_pow_right (by decide) (by omega)
      rw [shift_units]
      omega
    · rw [shift_units]
      omega

end Decimal

end WalletKit
