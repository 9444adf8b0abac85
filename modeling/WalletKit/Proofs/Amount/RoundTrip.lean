import WalletKit.Proofs.Amount.Display

set_option autoImplicit false

namespace WalletKit.Amount

open Digits Numeral

/-- A run of digits without superfluous zeros in front; one digit is left in any case. -/
def canonicalWhole (cs : List Char) : List Char :=
  if cs.dropWhile (· = '0') = [] then ['0'] else cs.dropWhile (· = '0')

/-- A token text without superfluous zeros at its two ends, and without a point that no digit
follows. -/
def canonicalTokens (t : String) : String :=
  let fraction := (fractionPart t).rdropWhile (· = '0')
  String.ofList (canonicalWhole (wholePart t) ++ if fraction = [] then [] else '.' :: fraction)

theorem ofDigitChars_dropWhile_zero (cs : List Char) :
    Nat.ofDigitChars 10 (cs.dropWhile (· = '0')) 0 = Nat.ofDigitChars 10 cs 0 := by
  induction cs with
  | nil => rfl
  | cons c cs ih =>
      by_cases zero : c = '0'
      · subst zero
        rw [List.dropWhile_cons_of_pos (by decide), ih]
        rfl
      · rw [List.dropWhile_cons_of_neg (by simpa using zero)]

/-- The numeral of the number that a run of digits spells is the run without its leading zeros. -/
theorem toDigits_ofDigitChars_eq_canonicalWhole {cs : List Char}
    (digits : ∀ c ∈ cs, c.isDigit) :
    Nat.toDigits 10 (Nat.ofDigitChars 10 cs 0) = canonicalWhole cs := by
  rw [← ofDigitChars_dropWhile_zero, canonicalWhole]
  split
  · rename_i nothing
    rw [nothing]
    rfl
  · rename_i nonempty
    apply toDigits_ofDigitChars nonempty
    · intro c inside
      exact digits c ((List.dropWhile_suffix _).subset inside)
    · intro zero
      have first := List.head?_dropWhile_not (fun c : Char => decide (c = '0')) cs
      rw [zero] at first
      simp at first

theorem rdropWhile_zeros (cs : List Char) (zeros : ℕ) :
    (cs ++ List.replicate zeros '0').rdropWhile (· = '0') = cs.rdropWhile (· = '0') := by
  induction zeros with
  | zero => rw [List.replicate_zero, List.append_nil]
  | succ zeros ih =>
      rw [List.replicate_succ', ← List.append_assoc, List.rdropWhile_concat_pos _ _ _ (by decide),
        ih]

namespace TokenText

variable {decimals : ℕ} {t : String} (text : TokenText decimals t)

include text

theorem wholePart_digits : ∀ c ∈ wholePart t, c.isDigit := by
  intro c inside
  apply text.digits
  rw [toList_withoutPoint text.onePoint]
  exact List.mem_append_left _ inside

theorem fractionPart_digits : ∀ c ∈ fractionPart t, c.isDigit := by
  intro c inside
  apply text.digits
  rw [toList_withoutPoint text.onePoint]
  exact List.mem_append_right _ inside

/-- The smallest units that a token text stands for, cut at the point of a token. -/
theorem units_eq :
    Nat.ofDigitChars 10 (withoutPoint t).toList 0 * 10 ^ (decimals - (fractionPart t).length) =
      10 ^ decimals * Nat.ofDigitChars 10 (wholePart t) 0 +
        Nat.ofDigitChars 10 (fractionPart t ++
          List.replicate (decimals - (fractionPart t).length) '0') 0 := by
  have power : 10 ^ decimals =
      10 ^ (fractionPart t).length * 10 ^ (decimals - (fractionPart t).length) := by
    rw [← Nat.pow_add, Nat.add_sub_cancel' text.fits]
  rw [toList_withoutPoint text.onePoint, ofDigitChars_append, ofDigitChars_append,
    Nat.ofDigitChars_replicate_zero, List.length_replicate, power]
  ring

/-- Written with all decimals of a token, the units have the digits of the text, filled up with
zeros. -/
theorem numeral_units (units : ℕ)
    (scaled : units = Nat.ofDigitChars 10 (withoutPoint t).toList 0 *
      10 ^ (decimals - (fractionPart t).length)) :
    Decimal.wholeDigits units decimals = canonicalWhole (wholePart t) ∧
      Decimal.fractionDigits units decimals =
        fractionPart t ++ List.replicate (decimals - (fractionPart t).length) '0' := by
  have filled : ∀ c ∈ fractionPart t ++
      List.replicate (decimals - (fractionPart t).length) '0', c.isDigit := by
    intro c inside
    rcases List.mem_append.mp inside with digit | zero
    · exact text.fractionPart_digits c digit
    · rw [List.eq_of_mem_replicate zero]
      rfl
  have length : (fractionPart t ++
      List.replicate (decimals - (fractionPart t).length) '0').length = decimals := by
    have fits := text.fits
    simp only [List.length_append, List.length_replicate]
    omega
  have small := ofDigitChars_lt filled
  rw [length] at small
  rw [text.units_eq] at scaled
  constructor
  · rw [Decimal.wholeDigits_eq, scaled, Nat.mul_add_div (Nat.pow_pos (by decide)),
      Nat.div_eq_of_lt small, Nat.add_zero,
      toDigits_ofDigitChars_eq_canonicalWhole text.wholePart_digits]
  · apply eq_of_ofDigitChars_eq (fun _ => Decimal.isDigit_fractionDigits) filled
    · rw [Decimal.length_fractionDigits, length]
    · rw [(Decimal.ofDigitChars_parts units decimals).2, scaled, Nat.mul_add_mod,
        Nat.mod_eq_of_lt small]

/-- Without the zeros at the end of its fraction, the numeral of the units is the canonical text. -/
theorem text_trimmed_numeral (units : ℕ)
    (scaled : units = Nat.ofDigitChars 10 (withoutPoint t).toList 0 *
      10 ^ (decimals - (fractionPart t).length)) :
    (Decimal.numeral ⟨false, units, decimals⟩).trimmed.text = canonicalTokens t := by
  obtain ⟨whole, fraction⟩ := text.numeral_units units scaled
  have trimmed : (Decimal.fractionDigits units decimals).rdropWhile (· = '0') =
      (fractionPart t).rdropWhile (· = '0') := by
    rw [fraction, rdropWhile_zeros]
  rw [canonicalTokens, PlainNumeral.text, PlainNumeral.chars]
  simp only [PlainNumeral.trimmed, Decimal.numeral, whole, trimmed]
  rfl

end TokenText

namespace Converter

variable {c : Converter} {t : String}

/-- Only a token text is read, and only within the limits. -/
theorem tokenText_of_unitsOfTokens {units : ℕ} (accepted : c.unitsOfTokens t = .ok units) :
    TokenText c.decimals t ∧ c.WithinLimits t ∧
      units = Nat.ofDigitChars 10 (withoutPoint t).toList 0 *
        10 ^ (c.decimals - (fractionPart t).length) := by
  rcases tokenText_or_fault c.decimals t with text | ⟨refused, reason, fault⟩
  · rw [unitsOfTokens_eq_scale text, scale_eq] at accepted
    by_cases readable : c.decimals - (fractionPart t).length + 1 ≤ maxDecimalDigits
    · rw [if_pos readable] at accepted
      exact ⟨text, ⟨text.short, readable⟩, (Except.ok.inj accepted).symm⟩
    · rw [if_neg readable] at accepted
      cases accepted
  · obtain ⟨cause, -, -, -, error⟩ := unitsOfTokens_of_fault fault
    rw [error] at accepted
    cases accepted

theorem unitsOfTokens_of_hexUnitsOfTokens {hexUnits : String} (nonempty : t ≠ "")
    (accepted : c.hexUnitsOfTokens t = .ok hexUnits) :
    ∃ units, c.unitsOfTokens t = .ok units ∧ hexUnits = hex units := by
  rw [hexUnitsOfTokens_eq nonempty] at accepted
  obtain ⟨units, success⟩ := exists_map_eq_ok.mp ⟨_, accepted⟩
  rw [success] at accepted
  exact ⟨units, success, (Except.ok.inj accepted).symm⟩

section Accepted

variable {units : ℕ} (accepted : c.unitsOfTokens t = .ok units)

include accepted

theorem units_div_eq_tokenValue : (units : ℚ) / 10 ^ c.decimals = tokenValue t := by
  obtain ⟨text, -, scaled⟩ := tokenText_of_unitsOfTokens accepted
  rw [scaled, scaled_eq text.onePoint text.fits, mul_div_cancel_right₀ _ (by positivity)]

theorem decimals_le_of_unitsOfTokens : c.decimals ≤ Decimal.maxExponent := by
  obtain ⟨text, within, -⟩ := tokenText_of_unitsOfTokens accepted
  exact within.decimals_le text.onePoint

theorem tokensOfUnits_of_unitsOfTokens (precise : c.precision ≤ Decimal.maxPrecision) :
    c.tokensOfUnits units = .ok (c.shown units).text := by
  obtain ⟨text, within, rfl⟩ := tokenText_of_unitsOfTokens accepted
  exact tokensOfUnits_of_few precise (within.units_lt text.digits)

theorem nearestEven_shown :
    NearestEven c.precision (tokenValue t) (c.shown units).value := by
  have few := decimals_le_of_unitsOfTokens accepted
  rw [← units_div_eq_tokenValue accepted, shown, Decimal.value_numeral, Decimal.quotient_natCast]
  have nearest := Decimal.nearestEven_rounded (Decimal.places_lt_of_le few units) c.precision_pos
  simpa only [Decimal.value, signFactor, Decimal.roundedValue, Bool.false_eq_true, if_false,
    one_mul] using nearest

theorem text_shown (fits : Significant c.precision (tokenValue t)) :
    (c.shown units).text = canonicalTokens t := by
  obtain ⟨text, -, scaled⟩ := tokenText_of_unitsOfTokens accepted
  have few := decimals_le_of_unitsOfTokens accepted
  rw [← units_div_eq_tokenValue accepted] at fits
  have exact := (Decimal.dvd_iff_significant (Decimal.places_lt_of_le few units)
    c.precision_pos).mpr fits
  rw [shown, Decimal.quotient_natCast, Decimal.rounded_of_dvd exact, Decimal.numeral_dropZeros]
  exact text.text_trimmed_numeral units scaled

theorem tokenValue_text_shown (fits : Significant c.precision (tokenValue t)) :
    tokenValue (c.shown units).text = tokenValue t := by
  rw [PlainNumeral.tokenValue_text (c.shown_negative units)]
  exact (nearestEven_shown accepted).eq_of_significant fits

end Accepted

theorem shown_text_eq_iff {t' : String} {units units' : ℕ}
    (accepted : c.unitsOfTokens t = .ok units) (accepted' : c.unitsOfTokens t' = .ok units')
    (fits : Significant c.precision (tokenValue t))
    (fits' : Significant c.precision (tokenValue t')) :
    (c.shown units).text = (c.shown units').text ↔ tokenValue t = tokenValue t' := by
  constructor
  · intro same
    rw [← tokenValue_text_shown accepted fits, ← tokenValue_text_shown accepted' fits', same]
  · intro same
    rw [← units_div_eq_tokenValue accepted, ← units_div_eq_tokenValue accepted',
      div_left_inj' (by positivity)] at same
    have units_eq : units = units' := by exact_mod_cast same
    rw [units_eq]

/-- A text that is read and shown again loses its superfluous zeros if its number fits into the
digits that are shown, and is else rounded to them; the way through base ten gives the same text.
Two texts whose numbers fit come back as one text exactly if they denote one number. -/
theorem token_text_round_trip (c : Converter) (precise : c.precision ≤ Decimal.maxPrecision)
    (t hexUnits : String) (nonempty : t ≠ "") (accepted : c.hexUnitsOfTokens t = .ok hexUnits) :
    (Significant c.precision (tokenValue t) →
      c.tokensOfHexUnits hexUnits = .ok (canonicalTokens t)) ∧
    (∃ x : PlainNumeral, c.tokensOfHexUnits hexUnits = .ok x.text ∧
      NearestEven c.precision (tokenValue t) x.value) ∧
    (∃ units : ℕ, hexUnits = hex units ∧ c.decimalUnitsOfTokens t = .ok (decimal units) ∧
      (units < 10 ^ maxDecimalDigits →
        c.tokensOfDecimalUnits (some (decimal units)) = c.tokensOfHexUnits hexUnits)) ∧
    ∀ t' hexUnits', t' ≠ "" → c.hexUnitsOfTokens t' = .ok hexUnits' →
      Significant c.precision (tokenValue t) → Significant c.precision (tokenValue t') →
      (c.tokensOfHexUnits hexUnits = c.tokensOfHexUnits hexUnits' ↔
        tokenValue t = tokenValue t') := by
  have shownAgain : ∀ {t' units'}, c.unitsOfTokens t' = .ok units' →
      c.tokensOfHexUnits (hex units') = .ok (c.shown units').text := by
    intro t' units' reads
    rw [tokensOfHexUnits_of_hexSpelling precise (hexSpelling_hex units')]
    exact tokensOfUnits_of_unitsOfTokens reads precise
  obtain ⟨units, reads, rfl⟩ := unitsOfTokens_of_hexUnitsOfTokens nonempty accepted
  refine ⟨?_, ⟨c.shown units, shownAgain reads, nearestEven_shown reads⟩,
    ⟨units, rfl, ?_, ?_⟩, ?_⟩
  · intro fits
    rw [shownAgain reads, text_shown reads fits]
  · rw [decimalUnitsOfTokens_eq nonempty, reads]
    rfl
  · intro short
    rw [tokensOfDecimalUnits_decimal, if_pos short,
      tokensOfHexUnits_of_hexSpelling precise (hexSpelling_hex units)]
  · intro t' hexUnits' nonempty' accepted' fits fits'
    obtain ⟨units', reads', rfl⟩ := unitsOfTokens_of_hexUnitsOfTokens nonempty' accepted'
    rw [shownAgain reads, shownAgain reads', Except.ok.injEq]
    exact shown_text_eq_iff reads reads' fits fits'

/-- Zeros at both ends are lost on the way. -/
theorem token_text_round_trip_seven_and_a_half :
    "007.50" ≠ "" ∧ Significant 7 (tokenValue "007.50") ∧
      ∃ hexUnits, ({} : Converter).hexUnitsOfTokens "007.50" = .ok hexUnits ∧
        ({} : Converter).tokensOfHexUnits hexUnits = .ok "7.5" := by
  have text : TokenText 18 "007.50" :=
    ⟨by decide, by decide, by decide, List.all_eq_true.mp (by decide), by decide⟩
  have fits : Significant 7 (tokenValue "007.50") := by
    refine ⟨75, -1, by decide, ?_⟩
    have value : tokenValue "007.50" = (7 : ℕ) + (50 : ℕ) / 10 ^ 2 := rfl
    rw [value]
    norm_num
  have reads := unitsOfTokens_of_tokenText (c := {}) text (by decide)
  obtain ⟨hexUnits, accepted⟩ : ∃ hexUnits,
      ({} : Converter).hexUnitsOfTokens "007.50" = .ok hexUnits := by
    rw [hexUnitsOfTokens_eq (by decide), exists_map_eq_ok]
    exact ⟨_, reads⟩
  obtain ⟨comesBack, -⟩ := token_text_round_trip {} (by decide) "007.50" hexUnits (by decide)
    accepted
  have canonical : canonicalTokens "007.50" = "7.5" := by decide
  rw [canonical] at comesBack
  exact ⟨by decide, fits, hexUnits, accepted, comesBack fits⟩

end Converter

end WalletKit.Amount
