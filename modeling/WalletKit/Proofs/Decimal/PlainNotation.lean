import Mathlib.Data.Rat.Cast.Order
import Mathlib.Tactic.Positivity
import WalletKit.Decimal.Quotient
import WalletKit.Proofs.Numeral.Digits

set_option autoImplicit false

namespace WalletKit

/-- What a minus sign multiplies the number behind it by. -/
def signFactor (negative : Bool) : ℚ := if negative then -1 else 1

/-- A sign, an integer part without superfluous zeros, and a fraction. Both are runs of digits. -/
@[ext]
structure PlainNumeral where
  negative : Bool
  whole : List Char
  fraction : List Char
  whole_ne_nil : whole ≠ []
  whole_digits : ∀ c ∈ whole, c.isDigit
  fraction_digits : ∀ c ∈ fraction, c.isDigit
  canonical : whole.head? = some '0' → whole = ['0']

namespace PlainNumeral

/-- The point stands only before a fraction, the minus sign only before a negative number. -/
def chars (x : PlainNumeral) : List Char :=
  (if x.negative then ['-'] else []) ++ x.whole ++
    (if x.fraction = [] then [] else '.' :: x.fraction)

def text (x : PlainNumeral) : String := String.ofList x.chars

/-- The number that a numeral denotes. -/
def value (x : PlainNumeral) : ℚ :=
  signFactor x.negative *
    (Nat.ofDigitChars 10 x.whole 0 + Nat.ofDigitChars 10 x.fraction 0 / 10 ^ x.fraction.length)

end PlainNumeral

namespace Digits

theorem eq_of_ofDigitChars_eq {front back : List Char} (frontDigits : ∀ c ∈ front, c.isDigit)
    (backDigits : ∀ c ∈ back, c.isDigit) (length : front.length = back.length)
    (same : Nat.ofDigitChars 10 front 0 = Nat.ofDigitChars 10 back 0) : front = back := by
  induction front using List.reverseRecOn generalizing back with
  | nil => exact (List.length_eq_zero_iff.mp length.symm).symm
  | append_singleton front c ih =>
      have nonempty : back ≠ [] := by
        rintro rfl
        simp at length
      obtain ⟨back, d, rfl⟩ := (List.eq_nil_or_concat' back).resolve_left nonempty
      rw [List.forall_mem_append, List.forall_mem_singleton] at frontDigits backDigits
      rw [ofDigitChars_append, ofDigitChars_append, ofDigitChars_singleton,
        ofDigitChars_singleton] at same
      simp only [List.length_singleton, Nat.pow_one] at same
      have c_lt := digit_lt_ten frontDigits.2
      have d_lt := digit_lt_ten backDigits.2
      have last : c.toNat - '0'.toNat = d.toNat - '0'.toNat := by omega
      rw [ih frontDigits.1 backDigits.1 (by simpa using length) (by omega),
        ← digitChar_toNat_sub frontDigits.2, last, digitChar_toNat_sub backDigits.2]

end Digits

namespace Decimal

open Digits

def value (x : Decimal) : ℚ := signFactor x.negative * (x.units / 10 ^ x.places)

theorem length_paddedDigits (width n : ℕ) :
    (paddedDigits width n).length = max width (Nat.toDigits 10 n).length := by
  simp only [paddedDigits, List.length_append, List.length_replicate]
  omega

theorem isDigit_paddedDigits {width n : ℕ} {c : Char} (inside : c ∈ paddedDigits width n) :
    c.isDigit := by
  rcases List.mem_append.mp inside with zero | digit
  · rw [List.eq_of_mem_replicate zero]
    rfl
  · exact isDigit_toDigits digit

theorem ofDigitChars_paddedDigits (width n : ℕ) :
    Nat.ofDigitChars 10 (paddedDigits width n) 0 = n := by
  rw [paddedDigits, Nat.ofDigitChars_append, Nat.ofDigitChars_replicate_zero, Nat.mul_zero,
    Nat.ofDigitChars_ten_toDigits]

/-- The digits before the last `places`. -/
def wholeDigits (units places : ℕ) : List Char :=
  (paddedDigits (places + 1) units).take ((paddedDigits (places + 1) units).length - places)

/-- The last `places` digits. -/
def fractionDigits (units places : ℕ) : List Char :=
  (paddedDigits (places + 1) units).drop ((paddedDigits (places + 1) units).length - places)

theorem wholeDigits_append_fractionDigits (units places : ℕ) :
    wholeDigits units places ++ fractionDigits units places = paddedDigits (places + 1) units :=
  List.take_append_drop _ _

theorem length_fractionDigits (units places : ℕ) :
    (fractionDigits units places).length = places := by
  have total := length_paddedDigits (places + 1) units
  rw [fractionDigits, List.length_drop]
  omega

theorem isDigit_wholeDigits {units places : ℕ} {c : Char}
    (inside : c ∈ wholeDigits units places) : c.isDigit :=
  isDigit_paddedDigits (List.mem_of_mem_take inside)

theorem isDigit_fractionDigits {units places : ℕ} {c : Char}
    (inside : c ∈ fractionDigits units places) : c.isDigit :=
  isDigit_paddedDigits (List.mem_of_mem_drop inside)

theorem wholeDigits_ne_nil (units places : ℕ) : wholeDigits units places ≠ [] := by
  apply List.ne_nil_of_length_pos
  have total := length_paddedDigits (places + 1) units
  rw [wholeDigits, List.length_take]
  omega

theorem fractionDigits_eq_nil {units places : ℕ} :
    fractionDigits units places = [] ↔ places = 0 := by
  rw [← List.length_eq_zero_iff, length_fractionDigits]

/-- Filling zeros stop at the last place before the point, so none is superfluous. -/
theorem wholeDigits_canonical {units places : ℕ}
    (zero : (wholeDigits units places).head? = some '0') : wholeDigits units places = ['0'] := by
  by_cases filled : (Nat.toDigits 10 units).length < places + 1
  · have one : (wholeDigits units places).length = 1 := by
      have total := length_paddedDigits (places + 1) units
      rw [wholeDigits, List.length_take]
      omega
    obtain ⟨c, alone⟩ := List.length_eq_one_iff.mp one
    rw [alone] at zero ⊢
    simpa using zero
  · have plain : paddedDigits (places + 1) units = Nat.toDigits 10 units := by
      rw [paddedDigits, Nat.sub_eq_zero_of_le (Nat.le_of_not_lt filled)]
      rfl
    have head : (Nat.toDigits 10 units).head? = some '0' := by
      rwa [← plain, ← wholeDigits_append_fractionDigits,
        List.head?_append_of_ne_nil _ (wholeDigits_ne_nil units places)]
    have nothing : units = 0 := by
      by_contra positive
      exact head?_toDigits (by decide) (Nat.pos_of_ne_zero positive) head
    subst nothing
    rw [Nat.toDigits_zero] at filled plain
    have noPlaces : places = 0 := by
      simp only [List.length_singleton] at filled
      omega
    subst noPlaces
    rw [wholeDigits, plain]
    rfl

theorem ofDigitChars_parts (units places : ℕ) :
    Nat.ofDigitChars 10 (wholeDigits units places) 0 = units / 10 ^ places ∧
      Nat.ofDigitChars 10 (fractionDigits units places) 0 = units % 10 ^ places := by
  have total := ofDigitChars_paddedDigits (places + 1) units
  rw [← wholeDigits_append_fractionDigits, ofDigitChars_append, length_fractionDigits] at total
  have small : Nat.ofDigitChars 10 (fractionDigits units places) 0 <
      10 ^ (fractionDigits units places).length :=
    ofDigitChars_lt fun _ => isDigit_fractionDigits
  rw [length_fractionDigits] at small
  obtain ⟨quotient, remainder⟩ := (Nat.div_mod_unique (Nat.pow_pos (by decide))).mpr
    ⟨(Nat.add_comm _ _).trans total, small⟩
  exact ⟨quotient.symm, remainder.symm⟩

theorem wholeDigits_eq (units places : ℕ) :
    wholeDigits units places = Nat.toDigits 10 (units / 10 ^ places) := by
  rw [← (ofDigitChars_parts units places).1]
  exact (toDigits_ofDigitChars (wholeDigits_ne_nil units places)
    (fun _ => isDigit_wholeDigits) wholeDigits_canonical).symm

theorem getLast?_toDigits (n : ℕ) : (Nat.toDigits 10 n).getLast? = some (n % 10).digitChar := by
  rw [Nat.toDigits_eq_if (by decide)]
  split
  · rename_i small
    rw [Nat.mod_eq_of_lt small, List.getLast?_singleton]
  · exact List.getLast?_concat

theorem getLast?_fractionDigits (units : ℕ) {places : ℕ} (positive : 0 < places) :
    (fractionDigits units places).getLast? = some (units % 10).digitChar := by
  have total := length_paddedDigits (places + 1) units
  have inside : ¬ (paddedDigits (places + 1) units).length ≤
      (paddedDigits (places + 1) units).length - places := by omega
  rw [fractionDigits, List.getLast?_drop, if_neg inside, paddedDigits,
    List.getLast?_append, getLast?_toDigits]
  rfl

/-- The numeral that a decimal is written as. -/
def numeral (x : Decimal) : PlainNumeral where
  negative := x.negative
  whole := wholeDigits x.units x.places
  fraction := fractionDigits x.units x.places
  whole_ne_nil := wholeDigits_ne_nil _ _
  whole_digits _ := isDigit_wholeDigits
  fraction_digits _ := isDigit_fractionDigits
  canonical := wholeDigits_canonical

theorem magnitude_eq (units places : ℕ) :
    magnitude units places = wholeDigits units places ++
      (if fractionDigits units places = [] then [] else '.' :: fractionDigits units places) := by
  simp only [magnitude, fractionDigits_eq_nil]
  split
  · rename_i none
    subst none
    rw [wholeDigits, Nat.sub_zero, List.take_length, List.append_nil]
  · rfl

theorem text_numeral (x : Decimal) : x.numeral.text = x.plain := by
  obtain ⟨negative, units, places⟩ := x
  simp only [PlainNumeral.text, PlainNumeral.chars, numeral, plain, magnitude_eq]
  cases negative <;> rfl

theorem value_numeral (x : Decimal) : x.numeral.value = x.value := by
  have parts := ofDigitChars_parts x.units x.places
  have split := Nat.div_add_mod x.units (10 ^ x.places)
  have cast : (x.units : ℚ) = 10 ^ x.places * (x.units / 10 ^ x.places : ℕ) +
      (x.units % 10 ^ x.places : ℕ) := by
    exact_mod_cast split.symm
  simp only [PlainNumeral.value, numeral, value, parts.1, parts.2, length_fractionDigits]
  rw [cast, add_div, mul_div_cancel_left₀ _ (by positivity)]

end Decimal

end WalletKit
