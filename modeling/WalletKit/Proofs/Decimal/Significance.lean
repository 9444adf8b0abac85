import Mathlib.Algebra.Order.Field.Power
import Mathlib.Algebra.Ring.Int.Parity
import Mathlib.Data.Rat.Cast.Order
import Mathlib.Tactic.Linarith
import Mathlib.Tactic.NormNum
import Mathlib.Tactic.Positivity
import Mathlib.Tactic.Ring

set_option autoImplicit false

/- Rounding to significant digits, told by the numbers alone. The nearest multiple of the unit of
the last digit is nearest among all numbers of so many digits, also those of a smaller unit: they
are all closer to zero than the least number whose last digit has that unit. -/
namespace WalletKit

/-- `x` can be written with at most `p` significant digits. -/
def Significant (p : ℕ) (x : ℚ) : Prop := ∃ m k : ℤ, m.natAbs < 10 ^ p ∧ x = m * 10 ^ k

/-- The `p`-th significant digit of `x` stands for `10 ^ k`. -/
def LastUnit (p : ℕ) (x : ℚ) (k : ℤ) : Prop :=
  10 ^ (p - 1) * 10 ^ k ≤ |x| ∧ |x| < 10 ^ p * (10 : ℚ) ^ k

/-- `r` is nearest to `q` among the numbers of `p` significant digits. Of two such numbers it is the
one that is an even multiple of the unit of the last digit. -/
structure NearestEven (p : ℕ) (q r : ℚ) : Prop where
  significant : Significant p r
  nearest : ∀ y, Significant p y → |q - r| ≤ |q - y|
  even : ∀ y, Significant p y → y ≠ r → |q - y| = |q - r| →
    ∀ k, LastUnit p q k → ∃ m : ℤ, Even m ∧ r = m * 10 ^ k

theorem Significant.neg {p : ℕ} {x : ℚ} (fits : Significant p x) : Significant p (-x) := by
  obtain ⟨m, k, small, rfl⟩ := fits
  exact ⟨-m, k, by rwa [Int.natAbs_neg], by push_cast; ring⟩

theorem LastUnit.neg {p : ℕ} {x : ℚ} {k : ℤ} (unit : LastUnit p x k) : LastUnit p (-x) k := by
  rwa [LastUnit, abs_neg]

theorem significant_zero (p : ℕ) : Significant p 0 :=
  ⟨0, 0, by simp, by simp⟩

theorem Significant.of_nat {p m : ℕ} (k : ℤ) (small : m < 10 ^ p) :
    Significant p (m * 10 ^ k) :=
  ⟨m, k, by simpa using small, by push_cast; rfl⟩

/-- A decimal of `p` digits stays one when its digits are rounded up to the next power of ten. -/
theorem Significant.of_nat_le {p m : ℕ} (k : ℤ) (positive : 0 < p) (small : m ≤ 10 ^ p) :
    Significant p (m * 10 ^ k) := by
  rcases Nat.lt_or_eq_of_le small with less | rfl
  · exact .of_nat k less
  · obtain ⟨p, rfl⟩ := Nat.exists_eq_succ_of_ne_zero (Nat.pos_iff_ne_zero.mp positive)
    have carried : ((10 ^ (p + 1) : ℕ) : ℚ) * 10 ^ k = (10 ^ p : ℕ) * 10 ^ (k + 1) := by
      rw [zpow_add₀ (by norm_num), zpow_one]
      push_cast
      ring
    rw [carried]
    exact .of_nat (k + 1) (Nat.pow_lt_pow_right (by norm_num) (by omega))

theorem LastUnit.unique {p : ℕ} {x : ℚ} {j k : ℤ} (positive : 0 < p) (left : LastUnit p x j)
    (right : LastUnit p x k) : j = k := by
  have ordered : ∀ {a b : ℤ}, LastUnit p x a → LastUnit p x b → a ≤ b := by
    intro a b low high
    have between := low.1.trans_lt high.2
    rw [← zpow_natCast, ← zpow_natCast, ← zpow_add₀ (by norm_num), ← zpow_add₀ (by norm_num),
      zpow_lt_zpow_iff_right₀ (by norm_num)] at between
    omega
  exact le_antisymm (ordered left right) (ordered right left)

/-- Beside a multiple within half a unit, every other multiple is at least half a unit away. -/
theorem half_unit_le {q unit : ℚ} {m n : ℤ} (positive : 0 < unit)
    (close : |q - m * unit| ≤ unit / 2) (other : n ≠ m) : unit / 2 ≤ |q - n * unit| := by
  have gap : (1 : ℚ) ≤ |(n : ℚ) - m| := by
    exact_mod_cast Int.one_le_abs (sub_ne_zero.mpr other)
  have apart : unit ≤ |n * unit - m * unit| := by
    rw [← sub_mul, abs_mul, abs_of_pos positive]
    nlinarith
  have detour := abs_sub_le (n * unit) q (m * unit)
  rw [abs_sub_comm (n * unit) q] at detour
  linarith

/-- A number of `p` digits is a multiple of `10 ^ k`, or less than any with that last unit. -/
theorem Significant.multiple_or_lt {p : ℕ} {y : ℚ} (fits : Significant p y) (k : ℤ) :
    (∃ n : ℤ, y = n * 10 ^ k) ∨ |y| < 10 ^ (p - 1) * 10 ^ k := by
  obtain ⟨m, j, small, rfl⟩ := fits
  rcases le_or_gt k j with coarse | fine
  · left
    obtain ⟨d, rfl⟩ := Int.le.dest coarse
    refine ⟨m * 10 ^ d, ?_⟩
    rw [zpow_add₀ (by norm_num), zpow_natCast]
    push_cast
    ring
  · right
    have magnitude : |(m : ℚ)| < 10 ^ p := by
      rw [← Int.cast_abs, Int.abs_eq_natAbs]
      exact_mod_cast small
    have step : (10 : ℚ) ^ p * 10 ^ j ≤ 10 ^ (p - 1) * 10 ^ k := by
      rw [← zpow_natCast, ← zpow_natCast, ← zpow_add₀ (by norm_num), ← zpow_add₀ (by norm_num)]
      exact zpow_le_zpow_right₀ (by norm_num) (by omega)
    calc |(m : ℚ) * 10 ^ j| = |(m : ℚ)| * 10 ^ j := by
          rw [abs_mul, abs_of_pos (by positivity : (0 : ℚ) < 10 ^ j)]
      _ < 10 ^ p * 10 ^ j := by
          exact mul_lt_mul_of_pos_right magnitude (by positivity)
      _ ≤ 10 ^ (p - 1) * 10 ^ k := step

theorem abs_neg_sub (a b : ℚ) : |-a - b| = |a - -b| := by
  rw [← abs_neg, neg_sub, sub_neg_eq_add, sub_neg_eq_add, add_comm]

theorem NearestEven.neg {p : ℕ} {q r : ℚ} (rounded : NearestEven p q r) :
    NearestEven p (-q) (-r) where
  significant := rounded.significant.neg
  nearest y fits := by
    rw [abs_neg_sub, abs_neg_sub, neg_neg]
    exact rounded.nearest (-y) fits.neg
  even y fits other equal k unit := by
    rw [abs_neg_sub, abs_neg_sub, neg_neg] at equal
    have different : -y ≠ r := fun same => other (by rw [← same, neg_neg])
    obtain ⟨m, even, same⟩ := rounded.even (-y) fits.neg different equal k (by
      simpa only [neg_neg] using unit.neg)
    exact ⟨-m, even.neg, by rw [same]; push_cast; ring⟩

/-- The multiple of the last unit, ties to even, is nearest among all significant numbers. -/
theorem NearestEven.of_multiple {p : ℕ} {q : ℚ} {m : ℕ} {k : ℤ} (several : 0 < p)
    (positive : 0 < q) (unit : LastUnit p q k) (close : |q - m * 10 ^ k| ≤ 10 ^ k / 2)
    (tie : |q - m * 10 ^ k| = 10 ^ k / 2 → Even m) : NearestEven p q (m * 10 ^ k) := by
  have one : (0 : ℚ) < 10 ^ k := by positivity
  have farther : ∀ n : ℤ, n ≠ m → (10 : ℚ) ^ k / 2 ≤ |q - n * 10 ^ k| := fun n other =>
    half_unit_le one (by exact_mod_cast close) other
  -- Below the decade of `q` lie the numbers of smaller units, and its first number is a multiple.
  have below : ∀ y : ℚ, |y| < 10 ^ (p - 1) * 10 ^ k → |q - m * 10 ^ k| < |q - y| := by
    intro y less
    have start : 10 ^ (p - 1) * (10 : ℚ) ^ k ≤ q := by
      rw [← abs_of_pos positive]
      exact unit.1
    have first : |q - m * 10 ^ k| ≤ |q - 10 ^ (p - 1) * 10 ^ k| := by
      by_cases same : m = 10 ^ (p - 1)
      · rw [same]
        push_cast
        exact le_refl _
      · refine close.trans ?_
        exact_mod_cast farther (10 ^ (p - 1) : ℕ) (by exact_mod_cast Ne.symm same)
    rw [abs_of_nonneg (sub_nonneg.mpr start)] at first
    have reach := le_abs_self (q - y)
    have size := le_abs_self y
    linarith
  have bounded : m ≤ 10 ^ p := by
    have upper := unit.2
    rw [abs_of_pos positive] at upper
    have room := (abs_le.mp close).1
    have half : (m : ℚ) * 10 ^ k < (10 ^ p + 1) * 10 ^ k := by linarith
    have less : (m : ℚ) < 10 ^ p + 1 := lt_of_mul_lt_mul_right half one.le
    exact Nat.lt_succ_iff.mp (by exact_mod_cast less)
  refine ⟨.of_nat_le k several bounded, ?_, ?_⟩
  · intro y fits
    rcases fits.multiple_or_lt k with ⟨n, rfl⟩ | less
    · by_cases same : n = m
      · rw [same]
        exact le_refl _
      · exact close.trans (farther n same)
    · exact (below y less).le
  · intro y fits other equal j jUnit
    rw [jUnit.unique several unit]
    rcases fits.multiple_or_lt k with ⟨n, rfl⟩ | less
    · have different : n ≠ m := by
        rintro rfl
        exact other rfl
      have far := farther n different
      rw [equal] at far
      exact ⟨m, by exact_mod_cast tie (le_antisymm close far), by push_cast; rfl⟩
    · exact absurd equal (below y less).ne'

theorem NearestEven.refl {p : ℕ} {q : ℚ} (fits : Significant p q) : NearestEven p q q where
  significant := fits
  nearest y _ := by
    rw [sub_self, abs_zero]
    exact abs_nonneg _
  even y _ other equal := by
    rw [sub_self, abs_zero, abs_eq_zero] at equal
    exact absurd (sub_eq_zero.mp equal).symm other

theorem NearestEven.eq_of_significant {p : ℕ} {q r : ℚ} (rounded : NearestEven p q r)
    (fits : Significant p q) : r = q := by
  have bound := rounded.nearest q fits
  rw [sub_self, abs_zero] at bound
  exact (sub_eq_zero.mp (abs_nonpos_iff.mp bound)).symm

end WalletKit
