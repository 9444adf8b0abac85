import Mathlib.Data.List.TakeWhile
import WalletKit.Amount.Tolerant
import WalletKit.Proofs.Amount.Scaling
import WalletKit.Proofs.Decimal.Division

set_option autoImplicit false

namespace WalletKit.Amount

open Numeral

theorem dropHexMark_zeroHex : dropHexMark zeroHex = "0" := rfl

/-- The two early answers are the ones that reading would have given. -/
theorem eq_zero_of_hexSpelling_zeroHex {n : ℕ} (spelling : HexSpelling n zeroHex) : n = 0 := by
  rcases read?_of_hexSpelling spelling with ⟨-, zero⟩ | ⟨-, reads⟩
  · exact zero
  · rw [dropHexMark_zeroHex] at reads
    exact (Option.some.inj reads).symm

theorem gweiOfHex_of_hexSpelling {n : ℕ} {h : String} (spelling : HexSpelling n h) :
    gweiOfHex h = { value := ⟨decimal n, .value⟩ } := by
  unfold gweiOfHex
  split
  · rename_i zero
    subst zero
    rw [eq_zero_of_hexSpelling_zeroHex spelling]
    rfl
  · rcases read?_of_hexSpelling spelling with ⟨none, zero⟩ | ⟨some, reads⟩
    · rw [zero]
      simp only [none, if_true]
      rfl
    · have number : tryRead .sixteen (dropHexMark h) = .some n := reads
      simp only [some, if_false, number]

theorem readDecimal_decimal (n : ℕ) :
    readDecimal (decimal n) = if n < 10 ^ maxDecimalDigits then .ok n
      else .error (.unreadable ⟨decimal n, .ten, .tooManyDigits⟩) := by
  rw [readDecimal, Numeral.readDecimal_decimal]
  split <;> rfl

theorem hexOfDecimal_decimal (n : ℕ) :
    hexOfDecimal (decimal n) = if n < 10 ^ maxDecimalDigits then .ok (hex n)
      else .error (.unreadable ⟨decimal n, .ten, .tooManyDigits⟩) := by
  rw [hexOfDecimal, if_neg (decimal_ne_empty n), readDecimal_decimal]
  split <;> rfl

theorem takeWhile_decimal (n : ℕ) :
    String.ofList ((decimal n).toList.takeWhile (· ≠ '.')) = decimal n := by
  have digits : (Nat.toDigits 10 n).takeWhile (· ≠ '.') = Nat.toDigits 10 n := by
    rw [List.takeWhile_eq_self_iff]
    intro c inside
    have digit := Digits.isDigit_toDigits inside
    have other : c ≠ '.' := by
      rintro rfl
      exact absurd digit (by decide)
    simpa using other
  rw [decimal, String.toList_ofList, digits]

theorem hexOfGwei_decimal (n : ℕ) :
    (hexOfGwei (decimal n)).value = if n < 10 ^ maxDecimalDigits then ⟨hex n, .value⟩
      else ⟨zeroHex, .zeroDefault⟩ := by
  rw [hexOfGwei, if_neg (decimal_ne_empty n), takeWhile_decimal, tryRead_ten,
    Numeral.readDecimal_decimal]
  by_cases short : n < 10 ^ maxDecimalDigits
  · rw [if_pos short, if_pos short]
    rfl
  · rw [if_neg short, if_neg short]
    rfl

namespace Converter

variable {c : Converter}

theorem tokensOfUnits_eq (precise : c.precision ≤ Decimal.maxPrecision) (units : ℕ) :
    c.tokensOfUnits units =
      if (Decimal.quotient units c.decimals c.precision).exceeds then .error (.division .overflow)
      else .ok (Decimal.quotient units c.decimals c.precision).numeral.text := by
  rw [tokensOfUnits, Decimal.divide_eq _ _ c.precision_pos precise]
  split <;> rfl

theorem tokensOfUnits_of_inRange (precise : c.precision ≤ Decimal.maxPrecision) {n : ℕ}
    (range : Decimal.InRange c.precision (n / 10 ^ c.decimals)) :
    c.tokensOfUnits n = .ok (Decimal.quotient n c.decimals c.precision).numeral.text := by
  have cast := Decimal.inRange_natCast_iff.mpr range
  rw [tokensOfUnits, Decimal.divide_of_inRange c.precision_pos precise cast]
  rfl

theorem tokensOfUnits_zero (precise : c.precision ≤ Decimal.maxPrecision) :
    c.tokensOfUnits 0 = .ok zeroDecimal := by
  rw [tokensOfUnits_eq precise, Decimal.quotient_natCast, Decimal.rounded_zero]
  rfl

/-- Every spelling of a number in base sixteen is divided, or answered as if it were. -/
theorem tokensOfHexUnits_of_hexSpelling (precise : c.precision ≤ Decimal.maxPrecision) {n : ℕ}
    {h : String} (spelling : HexSpelling n h) : c.tokensOfHexUnits h = c.tokensOfUnits n := by
  unfold tokensOfHexUnits
  split
  · rename_i zero
    subst zero
    rw [eq_zero_of_hexSpelling_zeroHex spelling, tokensOfUnits_zero precise]
  · rcases read?_of_hexSpelling spelling with ⟨none, zero⟩ | ⟨some, reads⟩
    · rw [zero, tokensOfUnits_zero precise]
      simp only [none, if_true]
    · have number : readHex (dropHexMark h) = .ok n := by
        rw [readHex, Numeral.readHex, reads]
        rfl
      simp only [some, if_false, number]
      rfl

theorem tokensOfDecimalUnits_decimal (n : ℕ) :
    c.tokensOfDecimalUnits (some (decimal n)) =
      if n < 10 ^ maxDecimalDigits then c.tokensOfUnits n
      else .error (.unreadable ⟨decimal n, .ten, .tooManyDigits⟩) := by
  unfold tokensOfDecimalUnits
  dsimp only
  rw [if_neg (decimal_ne_empty n), readDecimal_decimal]
  split <;> rfl

/-- A number of few digits keeps its quotient inside the bounds of a division. -/
theorem tokensOfUnits_of_few (precise : c.precision ≤ Decimal.maxPrecision) {n : ℕ}
    (few : n < 10 ^ (2 * maxDecimalDigits)) :
    c.tokensOfUnits n = .ok (Decimal.quotient n c.decimals c.precision).numeral.text := by
  have length : (Nat.toDigits 10 (n : ℤ).natAbs).length ≤ Decimal.maxExponent :=
    ((Digits.length_toDigits_le_iff (by decide)).mpr few).trans (by decide)
  rw [tokensOfUnits_eq precise, Decimal.not_exceeds_of_length c.precision_pos length]
  rfl

theorem tokensOfUnits_of_lt (precise : c.precision ≤ Decimal.maxPrecision) {n : ℕ}
    (short : n < 10 ^ maxDecimalDigits) :
    ∃ text, c.tokensOfUnits n = .ok text := by
  have few : n < 10 ^ (2 * maxDecimalDigits) :=
    short.trans_le (Nat.pow_le_pow_right (by decide) (Nat.le_mul_of_pos_left _ (by decide)))
  exact ⟨_, tokensOfUnits_of_few precise few⟩

/-- The base-ten and the base-sixteen forms of an amount of tokens are those of one number. -/
theorem gweiOfHex_hexUnitsOfTokens {t hexUnits : String}
    (accepted : c.hexUnitsOfTokens t = .ok hexUnits) :
    c.decimalUnitsOfTokens t = .ok (gweiOfHex hexUnits).value.text := by
  by_cases empty : t = ""
  · subst empty
    cases accepted
    rfl
  · rw [hexUnitsOfTokens_eq empty] at accepted
    rw [decimalUnitsOfTokens_eq empty]
    obtain ⟨units, success⟩ := exists_map_eq_ok.mp ⟨_, accepted⟩
    rw [success] at accepted ⊢
    cases accepted
    rw [gweiOfHex_of_hexSpelling (hexSpelling_hex units)]
    rfl

end Converter

/-- All routes between the written forms of one number agree, up to the limit of base ten. -/
theorem routes_agree (n : ℕ) (h : String) (spelling : HexSpelling n h) (c : Converter)
    (precise : c.precision ≤ Decimal.maxPrecision) :
    (gweiOfHex h).value = ⟨decimal n, .value⟩ ∧
    (n < 10 ^ maxDecimalDigits →
      hexOfDecimal (decimal n) = .ok (hex n) ∧
      (hexOfGwei (decimal n)).value = ⟨hex n, .value⟩ ∧
      ∃ text, c.tokensOfDecimalUnits (some (decimal n)) = .ok text ∧
        c.tokensOfHexUnits h = .ok text) ∧
    (10 ^ maxDecimalDigits ≤ n →
      hexOfDecimal (decimal n) = .error (.unreadable ⟨decimal n, .ten, .tooManyDigits⟩) ∧
      c.tokensOfDecimalUnits (some (decimal n)) =
        .error (.unreadable ⟨decimal n, .ten, .tooManyDigits⟩) ∧
      (hexOfGwei (decimal n)).value = ⟨zeroHex, .zeroDefault⟩) ∧
    ∀ t hexUnits, c.hexUnitsOfTokens t = .ok hexUnits →
      c.decimalUnitsOfTokens t = .ok (gweiOfHex hexUnits).value.text := by
  refine ⟨by rw [gweiOfHex_of_hexSpelling spelling], ?_, ?_,
    fun _ _ => Converter.gweiOfHex_hexUnitsOfTokens⟩
  · intro short
    obtain ⟨text, shown⟩ := Converter.tokensOfUnits_of_lt precise short
    rw [hexOfDecimal_decimal, hexOfGwei_decimal, Converter.tokensOfDecimalUnits_decimal,
      Converter.tokensOfHexUnits_of_hexSpelling precise spelling, if_pos short, if_pos short,
      if_pos short]
    exact ⟨rfl, rfl, text, shown, shown⟩
  · intro long
    have tooLong := Nat.not_lt.mpr long
    rw [hexOfDecimal_decimal, hexOfGwei_decimal, Converter.tokensOfDecimalUnits_decimal,
      if_neg tooLong, if_neg tooLong, if_neg tooLong]
    exact ⟨rfl, rfl, rfl⟩

/-- A spelling with zeros in front and letters of both cases is shown as the numeral is. -/
theorem routes_agree_two_hundred_fifty_five :
    HexSpelling 255 "0x00fF" ∧ (gweiOfHex "0x00fF").value = ⟨decimal 255, .value⟩ ∧
      ∃ text, ({} : Converter).tokensOfDecimalUnits (some (decimal 255)) = .ok text ∧
        ({} : Converter).tokensOfHexUnits "0x00fF" = .ok text := by
  have spelling : HexSpelling 255 "0x00fF" :=
    ⟨['0', '0', 'f', 'F'], Or.inr rfl, Or.inr ⟨2, rfl⟩⟩
  have short : 255 < 10 ^ maxDecimalDigits :=
    (Digits.length_toDigits_le_iff (by decide)).mp (by decide)
  obtain ⟨price, shown, -⟩ := routes_agree 255 "0x00fF" spelling {} (by decide)
  exact ⟨spelling, price, (shown short).2.2⟩

end WalletKit.Amount
