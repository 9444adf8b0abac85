import Mathlib.Data.Rat.Cast.Order
import Mathlib.Tactic.Linarith
import WalletKit.Amount.Strict
import WalletKit.Proofs.Numeral.Reading

set_option autoImplicit false

namespace WalletKit

theorem Digits.ne_point_of_isDigit {c : Char} (digit : c.isDigit) : c ≠ '.' := by
  rintro rfl
  exact absurd digit (by decide)

theorem exists_map_eq_ok {ε α β : Type} {r : Except ε α} {f : α → β} :
    (∃ y, r.map f = .ok y) ↔ ∃ x, r = .ok x := by
  cases r with
  | error e => exact ⟨nofun, nofun⟩
  | ok x => exact ⟨fun _ => ⟨x, rfl⟩, fun _ => ⟨f x, rfl⟩⟩

namespace Amount

open Digits

/-- The characters before the first point. -/
def wholePart (t : String) : List Char := t.toList.takeWhile (· ≠ '.')

/-- The characters behind the first point. -/
def fractionPart (t : String) : List Char := (t.toList.dropWhile (· ≠ '.')).drop 1

/-- The text without its points. -/
def withoutPoint (t : String) : String := String.ofList (t.toList.filter (· ≠ '.'))

/-- How many tokens a token text denotes. -/
def tokenValue (t : String) : ℚ :=
  Nat.ofDigitChars 10 (wholePart t) 0 +
    Nat.ofDigitChars 10 (fractionPart t) 0 / 10 ^ (fractionPart t).length

/-- A token text of digits and at most one point, with no more than `decimals` fractional digits. -/
structure TokenText (decimals : ℕ) (t : String) : Prop where
  onePoint : t.toList.count '.' ≤ 1
  fits : (fractionPart t).length ≤ decimals
  nonempty : withoutPoint t ≠ ""
  digits : ∀ c ∈ (withoutPoint t).toList, c.isDigit
  short : (withoutPoint t).length ≤ Numeral.maxDecimalDigits

/-- The first fault of a token text: the text that is refused, and the reason. -/
inductive TokenFault (decimals : ℕ) (t : String) : String → String → Prop where
  | severalPoints (points : 1 < t.toList.count '.') :
      TokenFault decimals t t "more than one decimal point"
  | fractionTooLong (onePoint : t.toList.count '.' ≤ 1)
      (long : decimals < (fractionPart t).length) :
      TokenFault decimals t t
        (toString (fractionPart t).length ++ " fractional digits exceed " ++ toString decimals ++
          " decimals")
  | malformed (onePoint : t.toList.count '.' ≤ 1) (fits : (fractionPart t).length ≤ decimals)
      (unreadable : withoutPoint t = "" ∨ ∃ c ∈ (withoutPoint t).toList, ¬ c.isDigit) :
      TokenFault decimals t (withoutPoint t) ""
  | tooManyDigits (onePoint : t.toList.count '.' ≤ 1) (fits : (fractionPart t).length ≤ decimals)
      (nonempty : withoutPoint t ≠ "") (digits : ∀ c ∈ (withoutPoint t).toList, c.isDigit)
      (long : Numeral.maxDecimalDigits < (withoutPoint t).length) :
      TokenFault decimals t (withoutPoint t) "too many digits"

theorem tokenText_or_fault (decimals : ℕ) (t : String) :
    TokenText decimals t ∨ ∃ text reason, TokenFault decimals t text reason := by
  by_cases points : 1 < t.toList.count '.'
  · exact Or.inr ⟨_, _, .severalPoints points⟩
  · have onePoint := Nat.le_of_not_lt points
    by_cases long : decimals < (fractionPart t).length
    · exact Or.inr ⟨_, _, .fractionTooLong onePoint long⟩
    · have fits := Nat.le_of_not_lt long
      by_cases unreadable : withoutPoint t = "" ∨ ∃ c ∈ (withoutPoint t).toList, ¬ c.isDigit
      · exact Or.inr ⟨_, _, .malformed onePoint fits unreadable⟩
      · rw [not_or] at unreadable
        have digits : ∀ c ∈ (withoutPoint t).toList, c.isDigit := by
          intro c inside
          by_contra bad
          exact unreadable.2 ⟨c, inside, bad⟩
        by_cases short : (withoutPoint t).length ≤ Numeral.maxDecimalDigits
        · exact Or.inl ⟨onePoint, fits, unreadable.1, digits, short⟩
        · exact Or.inr ⟨_, _, .tooManyDigits onePoint fits unreadable.1 digits (by omega)⟩

theorem filter_point {cs : List Char} (onePoint : cs.count '.' ≤ 1) :
    cs.filter (· ≠ '.') =
      cs.takeWhile (· ≠ '.') ++ (cs.dropWhile (· ≠ '.')).drop 1 := by
  induction cs with
  | nil => rfl
  | cons c cs ih =>
      by_cases point : c = '.'
      · subst point
        rw [List.count_cons_self] at onePoint
        have absent : '.' ∉ cs := List.count_eq_zero.mp (by omega)
        have kept : cs.filter (· ≠ '.') = cs := by
          rw [List.filter_eq_self]
          intro c inside
          have other : c ≠ '.' := fun same => absent (same ▸ inside)
          simpa using other
        simpa using kept
      · rw [List.count_cons_of_ne (fun same => point same)] at onePoint
        simpa [point] using ih onePoint

theorem toList_withoutPoint {t : String} (onePoint : t.toList.count '.' ≤ 1) :
    (withoutPoint t).toList = wholePart t ++ fractionPart t := by
  rw [withoutPoint, String.toList_ofList]
  exact filter_point onePoint

theorem tokenValue_eq {t : String} (onePoint : t.toList.count '.' ≤ 1) :
    tokenValue t =
      Nat.ofDigitChars 10 (withoutPoint t).toList 0 / 10 ^ (fractionPart t).length := by
  rw [toList_withoutPoint onePoint, ofDigitChars_append, tokenValue]
  push_cast
  rw [add_div, mul_div_cancel_left₀ _ (by positivity)]

namespace Converter

/-- The faults are looked for in a fixed order; the multiplier is read last. -/
theorem unitsOfTokens_eq (c : Converter) (t : String) :
    c.unitsOfTokens t =
      if 1 < t.toList.count '.' then .error (.unreadable ⟨t, .ten, .severalPoints⟩)
      else if c.decimals < (fractionPart t).length then
        .error (.unreadable ⟨t, .ten, .fractionTooLong (fractionPart t).length c.decimals⟩)
      else (readDecimal (withoutPoint t)).bind fun number =>
        (scale (c.decimals - (fractionPart t).length)).map (number * ·) := by
  have length : fractionDigits t.toList = (fractionPart t).length := by
    rw [fractionDigits, fractionPart, List.length_drop]
  rw [unitsOfTokens, length]
  rfl

theorem scale_eq (zeros : ℕ) :
    scale zeros = if zeros + 1 ≤ Numeral.maxDecimalDigits then .ok (10 ^ zeros)
      else .error (.multiplierTooLong (zeros + 1)) := rfl

/-- In a text that is in order only the multiplier can still fail. -/
theorem unitsOfTokens_eq_scale {c : Converter} {t : String} (text : TokenText c.decimals t) :
    c.unitsOfTokens t = (scale (c.decimals - (fractionPart t).length)).map
      (Nat.ofDigitChars 10 (withoutPoint t).toList 0 * ·) := by
  rw [unitsOfTokens_eq, if_neg (Nat.not_lt.mpr text.onePoint), if_neg (Nat.not_lt.mpr text.fits),
    readDecimal, Numeral.readDecimal_of_digits text.nonempty text.digits, if_pos text.short]
  rfl

theorem unitsOfTokens_of_tokenText {c : Converter} {t : String} (text : TokenText c.decimals t)
    (readable : c.decimals - (fractionPart t).length + 1 ≤ Numeral.maxDecimalDigits) :
    c.unitsOfTokens t = .ok (Nat.ofDigitChars 10 (withoutPoint t).toList 0 *
      10 ^ (c.decimals - (fractionPart t).length)) := by
  rw [unitsOfTokens_eq_scale text, scale_eq, if_pos readable]
  rfl

/-- Nothing is rounded: the whole number is exactly the tokens in smallest units. -/
theorem scaled_eq {decimals : ℕ} {t : String} (onePoint : t.toList.count '.' ≤ 1)
    (fits : (fractionPart t).length ≤ decimals) :
    ((Nat.ofDigitChars 10 (withoutPoint t).toList 0 *
      10 ^ (decimals - (fractionPart t).length) : ℕ) : ℚ) = tokenValue t * 10 ^ decimals := by
  have power : (10 : ℚ) ^ decimals =
      10 ^ (fractionPart t).length * 10 ^ (decimals - (fractionPart t).length) := by
    rw [← pow_add, Nat.add_sub_cancel' fits]
  rw [tokenValue_eq onePoint, power, ← mul_assoc, div_mul_cancel₀ _ (by positivity)]
  push_cast
  rfl

theorem unitsOfTokens_of_fault {c : Converter} {t text reason : String}
    (fault : TokenFault c.decimals t text reason) :
    ∃ cause : ParseError, cause.text = text ∧ cause.base = .ten ∧ cause.reason.text = reason ∧
      c.unitsOfTokens t = .error (.unreadable cause) := by
  rw [unitsOfTokens_eq]
  cases fault with
  | severalPoints points =>
      rw [if_pos points]
      exact ⟨_, rfl, rfl, rfl, rfl⟩
  | fractionTooLong onePoint long =>
      rw [if_neg (Nat.not_lt.mpr onePoint), if_pos long]
      exact ⟨_, rfl, rfl, rfl, rfl⟩
  | malformed onePoint fits unreadable =>
      rw [if_neg (Nat.not_lt.mpr onePoint), if_neg (Nat.not_lt.mpr fits), readDecimal,
        Numeral.readDecimal_of_not_digits unreadable]
      exact ⟨_, rfl, rfl, rfl, rfl⟩
  | tooManyDigits onePoint fits nonempty digits long =>
      rw [if_neg (Nat.not_lt.mpr onePoint), if_neg (Nat.not_lt.mpr fits), readDecimal,
        Numeral.readDecimal_of_digits nonempty digits, if_neg (Nat.not_le.mpr long)]
      exact ⟨_, rfl, rfl, rfl, rfl⟩

theorem unitsOfTokens_ok_iff {c : Converter} {t : String}
    (readable : (fractionPart t).length ≤ c.decimals →
      c.decimals - (fractionPart t).length + 1 ≤ Numeral.maxDecimalDigits) :
    (∃ units, c.unitsOfTokens t = .ok units) ↔ TokenText c.decimals t := by
  constructor
  · rintro ⟨units, success⟩
    rcases tokenText_or_fault c.decimals t with text | ⟨text, reason, fault⟩
    · exact text
    · obtain ⟨cause, -, -, -, error⟩ := unitsOfTokens_of_fault fault
      rw [error] at success
      cases success
  · intro text
    exact ⟨_, unitsOfTokens_of_tokenText text (readable text.fits)⟩

theorem decimalUnitsOfTokens_eq {c : Converter} {t : String} (nonempty : t ≠ "") :
    c.decimalUnitsOfTokens t = (c.unitsOfTokens t).map Numeral.decimal := by
  rw [decimalUnitsOfTokens, if_neg nonempty]

theorem hexUnitsOfTokens_eq {c : Converter} {t : String} (nonempty : t ≠ "") :
    c.hexUnitsOfTokens t = (c.unitsOfTokens t).map Numeral.hex := by
  rw [hexUnitsOfTokens, if_neg nonempty]

/-- A token text is scaled exactly, to one whole number in both bases, or refused for its first
fault; a converter whose multiplier can be read has no other answer. -/
theorem token_text_scaled_exactly (c : Converter) (t : String) (nonempty : t ≠ "")
    (readable : (fractionPart t).length ≤ c.decimals →
      c.decimals - (fractionPart t).length + 1 ≤ Numeral.maxDecimalDigits) :
    ((∃ text, c.decimalUnitsOfTokens t = .ok text) ↔ TokenText c.decimals t) ∧
    ((∃ text, c.hexUnitsOfTokens t = .ok text) ↔ TokenText c.decimals t) ∧
    (TokenText c.decimals t → ∃ units : ℕ, (units : ℚ) = tokenValue t * 10 ^ c.decimals ∧
      c.decimalUnitsOfTokens t = .ok (Numeral.decimal units) ∧
      c.hexUnitsOfTokens t = .ok (Numeral.hex units)) ∧
    (¬ TokenText c.decimals t → ∃ text reason, TokenFault c.decimals t text reason) ∧
    ∀ text reason, TokenFault c.decimals t text reason →
      ∃ cause : ParseError, cause.text = text ∧ cause.base = .ten ∧ cause.reason.text = reason ∧
        c.decimalUnitsOfTokens t = .error (.unreadable cause) ∧
        c.hexUnitsOfTokens t = .error (.unreadable cause) := by
  rw [decimalUnitsOfTokens_eq nonempty, hexUnitsOfTokens_eq nonempty, exists_map_eq_ok,
    exists_map_eq_ok]
  refine ⟨unitsOfTokens_ok_iff readable, unitsOfTokens_ok_iff readable, ?_, ?_, ?_⟩
  · intro text
    rw [unitsOfTokens_of_tokenText text (readable text.fits)]
    exact ⟨_, scaled_eq text.onePoint text.fits, rfl, rfl⟩
  · exact (tokenText_or_fault c.decimals t).resolve_left
  · intro text reason fault
    obtain ⟨cause, sameText, base, sameReason, error⟩ := unitsOfTokens_of_fault fault
    rw [error]
    exact ⟨cause, sameText, base, sameReason, rfl, rfl⟩

/-- A fraction needs no digit before its point. -/
theorem token_text_scaled_exactly_half :
    ".5" ≠ "" ∧ TokenText 18 ".5" ∧ ∃ units : ℕ, (units : ℚ) = tokenValue ".5" * 10 ^ 18 ∧
      ({} : Converter).decimalUnitsOfTokens ".5" = .ok (Numeral.decimal units) ∧
      ({} : Converter).hexUnitsOfTokens ".5" = .ok (Numeral.hex units) := by
  have text : TokenText 18 ".5" :=
    ⟨by decide, by decide, by decide, List.all_eq_true.mp (by decide), by decide⟩
  obtain ⟨-, -, scaled, -⟩ := token_text_scaled_exactly {} ".5" (by decide) (fun _ => by decide)
  exact ⟨by decide, text, scaled text⟩

end Converter

end Amount

end WalletKit
