import WalletKit.Proofs.Decimal.Division

set_option autoImplicit false

/- A quotient is rounded to the number that is nearest among all numbers of so many digits, so two
quotients cannot change places: the spacing of those numbers, ties, carries and signs do not enter
the argument. -/
namespace WalletKit

/-- What is no farther from the greater of two numbers is not below their middle. -/
theorem add_le_two_mul_of_near {q r s : ℚ} (less : s < r) (near : |q - r| ≤ |q - s|) :
    r + s ≤ 2 * q := by
  have squares : (q - r) ^ 2 ≤ (q - s) ^ 2 := sq_le_sq.mpr near
  have product : (r - s) * (r + s - 2 * q) ≤ 0 := by
    calc (r - s) * (r + s - 2 * q) = (q - r) ^ 2 - (q - s) ^ 2 := by ring
      _ ≤ 0 := sub_nonpos.mpr squares
  have below : r + s - 2 * q ≤ 0 := nonpos_of_mul_nonpos_right product (sub_pos.mpr less)
  linarith

theorem two_mul_le_add_of_near {q r s : ℚ} (less : s < r) (near : |q - s| ≤ |q - r|) :
    2 * q ≤ r + s := by
  have mirrored : |-q - -s| ≤ |-q - -r| := by
    rwa [abs_neg_sub, abs_neg_sub, neg_neg, neg_neg]
  have above := add_le_two_mul_of_near (neg_lt_neg less) mirrored
  linarith

/-- If the nearest numbers were in the opposite order, their middle would part the two numbers the
wrong way round. -/
theorem NearestEven.le_of_lt {p : ℕ} {q₁ q₂ r₁ r₂ : ℚ} (first : NearestEven p q₁ r₁)
    (second : NearestEven p q₂ r₂) (less : q₁ < q₂) : r₁ ≤ r₂ := by
  by_contra reversed
  have reversed : r₂ < r₁ := not_le.mp reversed
  have above := add_le_two_mul_of_near reversed (first.nearest r₂ second.significant)
  have below := two_mul_le_add_of_near reversed (second.nearest r₁ first.significant)
  linarith

namespace PlainNumeral

theorem ne_minus_of_isDigit {c : Char} (digit : c.isDigit) : c ≠ '-' := by
  rintro rfl
  exact absurd digit (by decide)

/-- No point stands before the fraction. -/
theorem sign_and_whole_points (x : PlainNumeral) :
    ∀ c ∈ (if x.negative then ['-'] else []) ++ x.whole, decide (c ≠ '.') = true := by
  intro c inside
  apply decide_eq_true
  rintro rfl
  rcases List.mem_append.mp inside with sign | digit
  · split at sign
    · simp at sign
    · cases sign
  · exact absurd (x.whole_digits _ digit) (by decide)

theorem takeWhile_chars (x : PlainNumeral) :
    x.chars.takeWhile (· ≠ '.') = (if x.negative then ['-'] else []) ++ x.whole := by
  rw [chars, List.takeWhile_append_of_pos x.sign_and_whole_points]
  cases x.fraction with
  | nil => exact List.append_nil _
  | cons c rest => exact List.append_nil _

theorem dropWhile_chars (x : PlainNumeral) : (x.chars.dropWhile (· ≠ '.')).drop 1 = x.fraction := by
  rw [chars, List.dropWhile_append_of_pos x.sign_and_whole_points]
  cases x.fraction with
  | nil => rfl
  | cons c rest => rfl

theorem head?_chars (x : PlainNumeral) : x.chars.head? = some '-' ↔ x.negative = true := by
  cases sign : x.negative with
  | true => simp [chars, sign]
  | false =>
      obtain ⟨c, rest, whole⟩ := List.exists_cons_of_ne_nil x.whole_ne_nil
      have digit := x.whole_digits c (by rw [whole]; exact List.mem_cons_self)
      simp [chars, sign, whole, ne_minus_of_isDigit digit]

/-- A text is the text of no two numerals, so that it denotes one number. -/
theorem text_injective : Function.Injective text := by
  intro x y same
  have chars : x.chars = y.chars := String.ofList_injective same
  have sign : x.negative = y.negative := by
    rw [Bool.eq_iff_iff, ← head?_chars, ← head?_chars, chars]
  have front := x.takeWhile_chars
  rw [chars, y.takeWhile_chars, sign] at front
  have fraction := x.dropWhile_chars
  rw [chars, y.dropWhile_chars] at fraction
  exact PlainNumeral.ext sign (List.append_cancel_left front).symm fraction.symm

end PlainNumeral

/-- Both are texts of numbers, and the number of the first is at most that of the second. -/
structure ShownInOrder {ε : Type} (first second : Except ε String) : Prop where
  left : ∃ x : PlainNumeral, first = .ok x.text
  right : ∃ y : PlainNumeral, second = .ok y.text
  ordered : ∀ x y : PlainNumeral, first = .ok x.text → second = .ok y.text → x.value ≤ y.value

theorem ShownInOrder.of_le {ε : Type} {x y : PlainNumeral} (ordered : x.value ≤ y.value) :
    ShownInOrder (Except.ok x.text : Except ε String) (.ok y.text) where
  left := ⟨x, rfl⟩
  right := ⟨y, rfl⟩
  ordered a b first second := by
    rwa [← PlainNumeral.text_injective (Except.ok.inj first),
      ← PlainNumeral.text_injective (Except.ok.inj second)]

namespace Decimal

variable {v w : ℤ} {places precision : ℕ}

theorem value_quotient_le (ordered : v ≤ w) (several : 0 < precision)
    (first : InRange precision (v / 10 ^ places)) (second : InRange precision (w / 10 ^ places)) :
    (quotient v places precision).value ≤ (quotient w places precision).value := by
  rcases ordered.eq_or_lt with rfl | less
  · rfl
  · apply (nearestEven_quotient several first).le_of_lt (nearestEven_quotient several second)
    have cast : (v : ℚ) < w := by exact_mod_cast less
    exact div_lt_div_of_pos_right cast (by positivity)

/-- Dividends in order have their quotients shown in order. -/
theorem shownInOrder_divide (ordered : v ≤ w) (several : 1 ≤ precision)
    (precise : precision ≤ maxPrecision) (first : InRange precision (v / 10 ^ places))
    (second : InRange precision (w / 10 ^ places)) :
    ShownInOrder (divide v places precision) (divide w places precision) := by
  rw [divide_of_inRange several precise first, divide_of_inRange several precise second]
  apply ShownInOrder.of_le
  rw [value_numeral, value_numeral]
  exact value_quotient_le ordered several first second

end Decimal

end WalletKit
