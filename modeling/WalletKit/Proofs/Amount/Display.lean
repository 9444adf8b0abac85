import WalletKit.Proofs.Amount.Routes
import WalletKit.Proofs.Decimal.Trimming

set_option autoImplicit false

namespace WalletKit

open Digits

namespace PlainNumeral

open Amount

variable {x : PlainNumeral} (unsigned : x.negative = false)

theorem whole_points {c : Char} (inside : c ∈ x.whole) : decide (c ≠ '.') = true :=
  decide_eq_true (ne_point_of_isDigit (x.whole_digits c inside))

include unsigned

theorem toList_text :
    x.text.toList = x.whole ++ (if x.fraction = [] then [] else '.' :: x.fraction) := by
  rw [text, String.toList_ofList, chars, unsigned]
  rfl

theorem count_point_text : x.text.toList.count '.' ≤ 1 := by
  have whole : x.whole.count '.' = 0 :=
    List.count_eq_zero.mpr fun inside => ne_point_of_isDigit (x.whole_digits _ inside) rfl
  have fraction : x.fraction.count '.' = 0 :=
    List.count_eq_zero.mpr fun inside => ne_point_of_isDigit (x.fraction_digits _ inside) rfl
  rw [toList_text unsigned, List.count_append, whole]
  split
  · exact Nat.zero_le _
  · rw [List.count_cons_self, fraction]

theorem wholePart_text : wholePart x.text = x.whole := by
  rw [wholePart, toList_text unsigned, List.takeWhile_append_of_pos fun _ => whole_points]
  split
  · exact List.append_nil _
  · exact List.append_nil _

theorem fractionPart_text : fractionPart x.text = x.fraction := by
  rw [fractionPart, toList_text unsigned, List.dropWhile_append_of_pos fun _ => whole_points]
  split
  · rename_i none
    rw [none]
    rfl
  · rfl

theorem toList_withoutPoint_text : (withoutPoint x.text).toList = x.whole ++ x.fraction := by
  rw [toList_withoutPoint (count_point_text unsigned), wholePart_text unsigned,
    fractionPart_text unsigned]

theorem tokenValue_text : tokenValue x.text = x.value := by
  rw [tokenValue, wholePart_text unsigned, fractionPart_text unsigned, value, unsigned]
  exact (one_mul _).symm

theorem withoutPoint_text_ne_empty : withoutPoint x.text ≠ "" := by
  rw [ne_eq, ← String.toList_eq_nil_iff, toList_withoutPoint_text unsigned]
  exact List.append_ne_nil_of_left_ne_nil x.whole_ne_nil _

theorem isDigit_withoutPoint_text : ∀ c ∈ (withoutPoint x.text).toList, c.isDigit := by
  rw [toList_withoutPoint_text unsigned, List.forall_mem_append]
  exact ⟨x.whole_digits, x.fraction_digits⟩

theorem text_ne_empty : x.text ≠ "" := by
  rw [ne_eq, ← String.toList_eq_nil_iff, toList_text unsigned]
  exact List.append_ne_nil_of_left_ne_nil x.whole_ne_nil _

/-- Only its length can keep a numeral with few enough fractional digits from being a token text. -/
theorem tokenText_text {decimals : ℕ} (fits : x.fraction.length ≤ decimals)
    (short : (withoutPoint x.text).length ≤ Numeral.maxDecimalDigits) :
    TokenText decimals x.text where
  onePoint := count_point_text unsigned
  fits := by
    rw [fractionPart_text unsigned]
    exact fits
  nonempty := withoutPoint_text_ne_empty unsigned
  digits := isDigit_withoutPoint_text unsigned
  short := short

end PlainNumeral

namespace Amount.Converter

open Numeral

/-- A text is short enough to be read, and so is the multiplier that its fraction leaves. -/
def WithinLimits (c : Converter) (t : String) : Prop :=
  (withoutPoint t).length ≤ maxDecimalDigits ∧
    c.decimals - (fractionPart t).length + 1 ≤ maxDecimalDigits

theorem WithinLimits.decimals_le {c : Converter} {t : String} (within : c.WithinLimits t)
    (onePoint : t.toList.count '.' ≤ 1) : c.decimals ≤ Decimal.maxExponent := by
  obtain ⟨digits, multiplier⟩ := within
  rw [← String.length_toList, toList_withoutPoint onePoint, List.length_append] at digits
  have limit : 2 * maxDecimalDigits ≤ Decimal.maxExponent := by decide
  omega

theorem WithinLimits.units_lt {c : Converter} {t : String} (within : c.WithinLimits t)
    (digits : ∀ c ∈ (withoutPoint t).toList, c.isDigit) :
    Nat.ofDigitChars 10 (withoutPoint t).toList 0 * 10 ^ (c.decimals - (fractionPart t).length) <
      10 ^ (2 * maxDecimalDigits) := by
  have small := Digits.ofDigitChars_lt digits
  rw [String.length_toList] at small
  rw [Nat.two_mul, Nat.pow_add]
  exact Nat.mul_lt_mul_of_lt_of_le
    (small.trans_le (Nat.pow_le_pow_right (by decide) within.1))
    (Nat.pow_le_pow_right (by decide) ((Nat.le_succ _).trans within.2))
    (Nat.pow_pos (by decide))

section Numerals

variable {c : Converter} {x : PlainNumeral} (unsigned : x.negative = false)
  (fits : x.fraction.length ≤ c.decimals)

include unsigned fits

theorem exists_hexUnitsOfTokens (within : c.WithinLimits x.text) :
    ∃ units : ℕ, (units : ℚ) = x.value * 10 ^ c.decimals ∧ units < 10 ^ (2 * maxDecimalDigits) ∧
      c.hexUnitsOfTokens x.text = .ok (hex units) := by
  have text := PlainNumeral.tokenText_text unsigned fits within.1
  have reads := unitsOfTokens_of_tokenText text within.2
  refine ⟨_, ?_, within.units_lt text.digits, ?_⟩
  · rw [scaled_eq text.onePoint text.fits, PlainNumeral.tokenValue_text unsigned]
  · rw [hexUnitsOfTokens_eq (PlainNumeral.text_ne_empty unsigned), reads]
    rfl

theorem multiplierTooLong_of_numeral (short : (withoutPoint x.text).length ≤ maxDecimalDigits)
    (long : ¬ c.decimals - x.fraction.length + 1 ≤ maxDecimalDigits) :
    c.hexUnitsOfTokens x.text =
      .error (.multiplierTooLong (c.decimals - x.fraction.length + 1)) := by
  have text := PlainNumeral.tokenText_text unsigned fits short
  rw [hexUnitsOfTokens_eq (PlainNumeral.text_ne_empty unsigned), unitsOfTokens_eq_scale text,
    PlainNumeral.fractionPart_text unsigned, scale_eq, if_neg long]
  rfl

/-- Zeros at the end of a fraction do not change what is read, but they shorten the multiplier. -/
theorem hexUnitsOfTokens_trimmed {units : ℕ} (denoted : (units : ℚ) = x.value * 10 ^ c.decimals)
    (within : c.WithinLimits x.text) :
    c.hexUnitsOfTokens x.trimmed.text =
      if c.decimals - x.trimmed.fraction.length + 1 ≤ maxDecimalDigits then .ok (hex units)
      else .error (.multiplierTooLong (c.decimals - x.trimmed.fraction.length + 1)) := by
  have trimmedUnsigned : x.trimmed.negative = false := unsigned
  have fewer := x.length_fraction_trimmed_le
  have short : (withoutPoint x.trimmed.text).length ≤ maxDecimalDigits := by
    have digits := within.1
    rw [← String.length_toList, PlainNumeral.toList_withoutPoint_text unsigned,
      List.length_append] at digits
    rw [← String.length_toList, PlainNumeral.toList_withoutPoint_text trimmedUnsigned,
      List.length_append]
    exact (Nat.add_le_add_left fewer _).trans digits
  by_cases multiplier : c.decimals - x.trimmed.fraction.length + 1 ≤ maxDecimalDigits
  · obtain ⟨read, value, -, reads⟩ := exists_hexUnitsOfTokens trimmedUnsigned (fewer.trans fits)
      ⟨short, by rwa [PlainNumeral.fractionPart_text trimmedUnsigned]⟩
    rw [x.value_trimmed, ← denoted] at value
    have same : read = units := by exact_mod_cast value
    rw [if_pos multiplier, reads, same]
  · rw [if_neg multiplier]
    exact multiplierTooLong_of_numeral trimmedUnsigned (fewer.trans fits) short multiplier

/-- The only text fault of a numeral is its length. -/
theorem tooManyDigits_of_numeral {cause : ParseError}
    (refused : c.hexUnitsOfTokens x.text = .error (.unreadable cause)) :
    cause.reason = .tooManyDigits := by
  by_cases short : (withoutPoint x.text).length ≤ maxDecimalDigits
  · by_cases multiplier : c.decimals - x.fraction.length + 1 ≤ maxDecimalDigits
    · obtain ⟨units, -, -, reads⟩ := exists_hexUnitsOfTokens unsigned fits
        ⟨short, by rwa [PlainNumeral.fractionPart_text unsigned]⟩
      rw [reads] at refused
      cases refused
    · rw [multiplierTooLong_of_numeral unsigned fits short multiplier] at refused
      cases refused
  · have onePoint := PlainNumeral.count_point_text unsigned
    rw [hexUnitsOfTokens_eq (PlainNumeral.text_ne_empty unsigned), unitsOfTokens_eq,
      if_neg (Nat.not_lt.mpr onePoint), PlainNumeral.fractionPart_text unsigned,
      if_neg (Nat.not_lt.mpr fits), readDecimal,
      Numeral.readDecimal_of_digits (PlainNumeral.withoutPoint_text_ne_empty unsigned)
        (PlainNumeral.isDigit_withoutPoint_text unsigned), if_neg short] at refused
    have same := Error.unreadable.inj (Except.error.inj refused)
    rw [← same]

end Numerals

variable {c : Converter}

theorem decimals_le_of_withinLimits {x : PlainNumeral} (unsigned : x.negative = false)
    (within : c.WithinLimits x.text) : c.decimals ≤ Decimal.maxExponent :=
  within.decimals_le (PlainNumeral.count_point_text unsigned)

/-- The numeral that an amount in smallest units is shown as. -/
def shown (c : Converter) (units : ℕ) : PlainNumeral :=
  (Decimal.quotient units c.decimals c.precision).numeral

theorem shown_negative (units : ℕ) : (c.shown units).negative = false := by
  rw [shown, Decimal.quotient_natCast]
  rfl

theorem length_fraction_shown_le (units : ℕ) : (c.shown units).fraction.length ≤ c.decimals := by
  rw [shown, Decimal.quotient_natCast]
  exact (Decimal.length_fractionDigits _ _).trans_le (Decimal.rounded_places_le _ _ _)

theorem value_shown (units : ℕ) :
    (c.shown units).value * 10 ^ c.decimals =
      Decimal.roundedUnits units c.decimals c.precision := by
  have value : (c.shown units).value =
      Decimal.roundedUnits units c.decimals c.precision / 10 ^ c.decimals := by
    rw [shown, Decimal.value_numeral, Decimal.roundedUnits_div, Decimal.quotient_natCast]
    exact one_mul _
  rw [value, div_mul_cancel₀ _ (by positivity)]

theorem tokensOfHexUnits_hex {units : ℕ} (precise : c.precision ≤ Decimal.maxPrecision)
    (range : Decimal.InRange c.precision (units / 10 ^ c.decimals)) :
    c.tokensOfHexUnits (hex units) = .ok (c.shown units).text := by
  rw [tokensOfHexUnits_of_hexSpelling precise (hexSpelling_hex units),
    tokensOfUnits_of_inRange precise range, shown]

/-- The units that a shown amount stands for are shown without the zeros at the end. -/
theorem tokensOfHexUnits_roundedUnits (precise : c.precision ≤ Decimal.maxPrecision)
    (few : c.decimals ≤ Decimal.maxExponent) {units : ℕ}
    (small : Decimal.roundedUnits units c.decimals c.precision < 10 ^ (2 * maxDecimalDigits)) :
    c.tokensOfHexUnits (hex (Decimal.roundedUnits units c.decimals c.precision)) =
      .ok (c.shown units).trimmed.text := by
  rw [tokensOfHexUnits_of_hexSpelling precise (hexSpelling_hex _),
    tokensOfUnits_of_few precise small, shown, Decimal.quotient_natCast, Decimal.quotient_natCast,
    Decimal.rounded_roundedUnits units few c.precision_pos, Decimal.numeral_dropZeros]

/-- A shown amount is refused for its length alone. Read back it is the amount to the digits that
were shown, which is shown without the zeros at the end, and from then on nothing changes unless the
shorter fraction leaves a multiplier that is too long. -/
theorem shown_amount_read_back (c : Converter) (units : ℕ)
    (precise : c.precision ≤ Decimal.maxPrecision)
    (range : Decimal.InRange c.precision (units / 10 ^ c.decimals)) :
    ∃ x : PlainNumeral, c.tokensOfHexUnits (hex units) = .ok x.text ∧
      x.text.toList.count '.' ≤ 1 ∧ (fractionPart x.text).length ≤ c.decimals ∧
      (∀ cause, c.hexUnitsOfTokens x.text = .error (.unreadable cause) →
        cause.reason = .tooManyDigits) ∧
      (c.WithinLimits x.text → ∃ units' : ℕ, c.hexUnitsOfTokens x.text = .ok (hex units') ∧
        ((∀ digit ∈ (Nat.toDigits 10 units).drop c.precision, digit = '0') → units' = units) ∧
        |(units' : ℚ) - units| ≤ 10 ^ ((Nat.toDigits 10 units).length - c.precision) / 2 ∧
        c.tokensOfHexUnits (hex units') = .ok x.trimmed.text ∧ x.trimmed.value = x.value ∧
        c.hexUnitsOfTokens x.trimmed.text =
          if c.decimals - x.trimmed.fraction.length + 1 ≤ maxDecimalDigits then .ok (hex units')
          else .error (.multiplierTooLong (c.decimals - x.trimmed.fraction.length + 1))) := by
  have unsigned := c.shown_negative units
  have fits := c.length_fraction_shown_le units
  refine ⟨c.shown units, tokensOfHexUnits_hex precise range, PlainNumeral.count_point_text unsigned,
    ?_, fun _ => tooManyDigits_of_numeral unsigned fits, ?_⟩
  · rw [PlainNumeral.fractionPart_text unsigned]
    exact fits
  · intro within
    obtain ⟨units', denoted, small, reads⟩ := exists_hexUnitsOfTokens unsigned fits within
    have same : units' = Decimal.roundedUnits units c.decimals c.precision := by
      rw [value_shown] at denoted
      exact_mod_cast denoted
    subst same
    have few := decimals_le_of_withinLimits unsigned within
    have large := Decimal.places_lt_of_le few units
    exact ⟨_, reads, Decimal.roundedUnits_of_zeros large c.precision_pos,
      Decimal.roundedUnits_error large c.precision_pos,
      tokensOfHexUnits_roundedUnits precise few small, (c.shown units).value_trimmed,
      hexUnitsOfTokens_trimmed unsigned fits denoted within⟩

/-- One and a half tokens are shown, within the limits, and read back. -/
theorem shown_amount_read_back_one_and_a_half :
    Decimal.InRange 7 ((1500000000000000000 : ℕ) / 10 ^ 18) ∧
      ∃ x : PlainNumeral, ({} : Converter).tokensOfHexUnits (hex 1500000000000000000) = .ok x.text ∧
        (fractionPart x.text).length ≤ 18 ∧ ({} : Converter).WithinLimits x.text ∧
        ({} : Converter).hexUnitsOfTokens x.text = .ok (hex 1500000000000000000) := by
  have range : Decimal.InRange 7 (((1500000000000000000 : ℕ) : ℤ) / 10 ^ 18) :=
    .of_digits (by decide) (by decide) (by decide +kernel) (by decide +kernel)
  rw [Int.cast_natCast] at range
  obtain ⟨x, shown, -, fits, -, back⟩ :=
    shown_amount_read_back {} 1500000000000000000 (by decide) range
  have text : ({} : Converter).tokensOfHexUnits (hex 1500000000000000000) = .ok "1.5" := by
    decide +kernel
  have within : ({} : Converter).WithinLimits x.text := by
    rw [← Except.ok.inj (text.symm.trans shown)]
    exact ⟨by decide, by decide⟩
  have zeros : ((Nat.toDigits 10 1500000000000000000).drop 7).all (· == '0') = true := by decide
  obtain ⟨units, reads, exact, -⟩ := back within
  rw [exact fun digit behind => eq_of_beq (List.all_eq_true.mp zeros digit behind)] at reads
  exact ⟨range, x, shown, fits, within, reads⟩

section Limit

variable {decimals : ℕ}

theorem length_toDigits_token_and_unit (decimals : ℕ) :
    (Nat.toDigits 10 (10 ^ decimals + 1)).length = decimals + 1 := by
  have power : 10 ^ (decimals + 1) = 10 ^ decimals * 10 := Nat.pow_succ 10 _
  have one : 0 < 10 ^ decimals := Nat.pow_pos (by decide)
  have upper := (Digits.length_toDigits_le_iff (n := 10 ^ decimals + 1)
    (Nat.succ_pos decimals)).mpr (by omega)
  have lower : ¬ (Nat.toDigits 10 (10 ^ decimals + 1)).length ≤ decimals := by
    rcases Nat.eq_zero_or_pos decimals with zero | positive
    · have digits : 0 < (Nat.toDigits 10 (10 ^ decimals + 1)).length := Nat.length_toDigits_pos
      omega
    · rw [Digits.length_toDigits_le_iff positive]
      omega
  omega

/-- One unit more than a token rounds to a token, which keeps a digit of its fraction. -/
theorem rounded_token_and_unit (several : 2 ≤ decimals) :
    Decimal.rounded (10 ^ decimals + 1) decimals 2 = (10, 1) := by
  have length := length_toDigits_token_and_unit decimals
  have cut : Decimal.cutDigits (10 ^ decimals + 1) decimals 2 = decimals + 1 - 2 := by
    rw [Decimal.cutDigits_eq (by omega) (by decide), length]
  obtain ⟨places, rfl⟩ := Nat.exists_eq_add_of_le several
  rw [show 2 + places + 1 - 2 = places + 1 by omega] at cut
  have power : 10 ^ (2 + places) = 10 ^ (places + 1) * 10 := by
    rw [← Nat.pow_succ]
    congr 1
    omega
  have unit : 2 < 10 ^ (places + 1) := by
    have least : 10 ^ 1 ≤ 10 ^ (places + 1) := Nat.pow_le_pow_right (by decide) (by omega)
    omega
  have remainder : (10 ^ (2 + places) + 1) % 10 ^ (places + 1) = 1 := by
    rw [power, Nat.mul_add_mod, Nat.mod_eq_of_lt (by omega)]
  have quotient : (10 ^ (2 + places) + 1) / 10 ^ (places + 1) = 10 := by
    rw [power, Nat.mul_add_div (by omega), Nat.div_eq_of_lt (by omega)]
  have kept : roundHalfEven (10 ^ (2 + places) + 1) (10 ^ (places + 1)) = 10 := by
    rw [roundHalfEven, remainder, quotient, if_pos (by omega)]
  rw [Decimal.rounded_eq_of_not_dvd (by rw [cut, remainder]; decide), cut, kept,
    if_neg (by decide), Decimal.shift_eq, if_pos (by omega)]
  congr 1
  omega

theorem roundedUnits_token_and_unit (several : 2 ≤ decimals) :
    Decimal.roundedUnits (10 ^ decimals + 1) decimals 2 = 10 ^ decimals := by
  rw [Decimal.roundedUnits, rounded_token_and_unit several, ← Nat.pow_succ']
  congr 1
  omega

/-- A converter that shows two significant digits. -/
def twoDigits (decimals : ℕ) : Converter := { decimals := decimals, precision := 2 }

theorem twoDigits_precise (decimals : ℕ) :
    (twoDigits decimals).precision ≤ Decimal.maxPrecision :=
  (by decide : 2 ≤ Decimal.maxPrecision)

theorem inRange_token_and_unit (decimals : ℕ) :
    Decimal.InRange 2 ((10 ^ decimals + 1 : ℕ) / 10 ^ decimals) := by
  have length := length_toDigits_token_and_unit decimals
  have most : 1 < Decimal.maxExponent := by decide
  apply Decimal.inRange_natCast_iff.mp
  apply Decimal.InRange.of_digits
  · exact Int.natCast_ne_zero.mpr (Nat.succ_ne_zero _)
  · decide
  · rw [Int.natAbs_natCast, length]
    omega
  · rw [Int.natAbs_natCast, length]
    omega

theorem shown_token_and_unit (several : 2 ≤ decimals) :
    (twoDigits decimals).shown (10 ^ decimals + 1) = Decimal.numeral ⟨false, 10, 1⟩ := by
  rw [shown, Decimal.quotient_natCast, twoDigits, rounded_token_and_unit several]

theorem tokensOfHexUnits_token_and_unit (several : 2 ≤ decimals) :
    (twoDigits decimals).tokensOfHexUnits (hex (10 ^ decimals + 1)) = .ok "1.0" := by
  rw [tokensOfHexUnits_hex (twoDigits_precise decimals) (inRange_token_and_unit decimals),
    shown_token_and_unit several]
  rfl

theorem tokensOfHexUnits_token (several : 2 ≤ decimals) (few : decimals ≤ maxDecimalDigits) :
    (twoDigits decimals).tokensOfHexUnits (hex (10 ^ decimals)) = .ok "1" := by
  have units : Decimal.roundedUnits (10 ^ decimals + 1) (twoDigits decimals).decimals
      (twoDigits decimals).precision = 10 ^ decimals := roundedUnits_token_and_unit several
  have small : 10 ^ decimals < 10 ^ (2 * maxDecimalDigits) :=
    Nat.pow_lt_pow_right (by decide) (by omega)
  have again := tokensOfHexUnits_roundedUnits (twoDigits_precise decimals)
    (few.trans (by decide)) (units.trans_lt small)
  rw [units, shown_token_and_unit several] at again
  rw [again]
  rfl

theorem hexUnitsOfTokens_one_point_zero (several : 2 ≤ decimals)
    (readable : decimals ≤ maxDecimalDigits) :
    (twoDigits decimals).hexUnitsOfTokens "1.0" = .ok (hex (10 ^ decimals)) := by
  have fraction : fractionPart "1.0" = ['0'] := by decide
  have digits : Nat.ofDigitChars 10 (withoutPoint "1.0").toList 0 = 10 := by decide
  have text : TokenText decimals "1.0" :=
    ⟨by decide, by rw [fraction]; exact Nat.le_of_succ_le several, by decide,
      List.all_eq_true.mp (by decide), by decide⟩
  have multiplier : decimals - (fractionPart "1.0").length + 1 = decimals := by
    rw [fraction, List.length_singleton]
    omega
  rw [hexUnitsOfTokens_eq (by decide),
    unitsOfTokens_of_tokenText (c := twoDigits decimals) text (multiplier.trans_le readable),
    digits, ← Nat.pow_succ', twoDigits, Nat.succ_eq_add_one, multiplier]
  rfl

theorem hexUnitsOfTokens_one (long : maxDecimalDigits ≤ decimals) :
    (twoDigits decimals).hexUnitsOfTokens "1" = .error (.multiplierTooLong (decimals + 1)) :=
  multiplierTooLong_of_numeral (c := twoDigits decimals)
    (x := Decimal.numeral ⟨false, 1, 0⟩) rfl (Nat.zero_le _) (by decide) (by
      rw [Nat.not_le]
      exact Nat.lt_succ_of_le long)

end Limit

/-- A text within the limits is read, and the trimmed display of what was read is not: it is one
digit shorter, so that its multiplier is one zero longer. -/
theorem shown_amount_not_read_back_twice :
    Decimal.InRange 2 ((10 ^ 4300 + 1 : ℕ) / 10 ^ 4300) ∧
      (twoDigits 4300).tokensOfHexUnits (hex (10 ^ 4300 + 1)) = .ok "1.0" ∧
      (twoDigits 4300).WithinLimits "1.0" ∧
      (twoDigits 4300).hexUnitsOfTokens "1.0" = .ok (hex (10 ^ 4300)) ∧
      (twoDigits 4300).tokensOfHexUnits (hex (10 ^ 4300)) = .ok "1" ∧
      (twoDigits 4300).hexUnitsOfTokens "1" = .error (.multiplierTooLong 4301) := by
  have several : 2 ≤ 4300 := by decide
  have limit : 4300 = maxDecimalDigits := rfl
  exact ⟨inRange_token_and_unit _, tokensOfHexUnits_token_and_unit several,
    ⟨by decide, by decide⟩, hexUnitsOfTokens_one_point_zero several limit.le,
    tokensOfHexUnits_token several limit.le, hexUnitsOfTokens_one limit.ge⟩

end Amount.Converter

end WalletKit
