import WalletKit.Proofs.Amount.Routes
import WalletKit.Proofs.Amount.Tolerance

set_option autoImplicit false

namespace WalletKit

namespace Decimal

theorem divide_of_imprecise {precision : ℤ} (imprecise : maxPrecision < precision) (v : ℤ)
    (places : ℕ) :
    divide v places precision =
      .error (if wordBound ≤ precision then .precisionBeyondWord else .precisionOutOfRange) := by
  have positive : -wordBound ≤ precision := by
    unfold maxPrecision at imprecise
    unfold wordBound
    omega
  have checked : checkPrecision precision =
      .error (if wordBound ≤ precision then .precisionBeyondWord else .precisionOutOfRange) := by
    rw [checkPrecision, if_congr (or_iff_right (Int.not_lt.mpr positive)) rfl rfl]
    split
    · rfl
    · exact if_pos (Or.inr imprecise)
  rw [divide, checked]
  rfl

theorem inRange_one_div {precision places : ℕ} (several : 1 ≤ precision)
    (few : places ≤ maxExponent) : InRange precision (1 / 10 ^ places) := by
  have digits : (Nat.toDigits 10 (1 : ℤ).natAbs).length = 1 := by decide
  have most : 1 ≤ maxExponent := by decide
  have range : InRange precision ((1 : ℤ) / 10 ^ places) := by
    apply InRange.of_digits (by decide) several
    · omega
    · omega
  rwa [Int.cast_one] at range

end Decimal

namespace Amount

open Numeral

/-- A result, or the fault of a text that could not be read; no other failure. -/
def Answered {α : Type} (r : Except Error α) : Prop :=
  (∃ a, r = .ok a) ∨ ∃ cause, r = .error (.unreadable cause)

theorem Answered.bind {α β : Type} {r : Except Error α} {f : α → Except Error β}
    (first : Answered r) (next : ∀ a, r = .ok a → Answered (f a)) : Answered (r.bind f) := by
  rcases first with ⟨a, rfl⟩ | ⟨cause, rfl⟩
  · exact next a rfl
  · exact Or.inr ⟨cause, rfl⟩

theorem answered_map_iff {α β : Type} {r : Except Error α} {f : α → β} :
    Answered (r.map f) ↔ Answered r := by
  cases r <;> simp [Answered, Except.map]

theorem answered_mapError {α : Type} (r : Except ParseError α) :
    Answered (r.mapError .unreadable) := by
  cases r with
  | ok a => exact Or.inl ⟨a, rfl⟩
  | error cause => exact Or.inr ⟨cause, rfl⟩

theorem answered_hexOfDecimal (s : String) : Answered (hexOfDecimal s) := by
  rw [hexOfDecimal]
  split
  · exact Or.inl ⟨_, rfl⟩
  · exact answered_map_iff.mpr (answered_mapError _)

theorem answered_multiplyHex (a b : String) : Answered (multiplyHex a b) := by
  apply (answered_mapError _).bind
  intro left _
  apply (answered_mapError _).bind
  intro right _
  exact Or.inl ⟨_, rfl⟩

/-- A mark, if there is one, and at least one digit behind it. -/
def ReadableHex (s : String) : Prop := behindMark s ≠ [] ∧ ∀ d ∈ behindMark s, IsHexDigit d

instance (s : String) : Decidable (ReadableHex s) :=
  decidable_of_iff (behindMark s ≠ [] ∧ (behindMark s).all (IsHexDigit ·) = true)
    (and_congr_right' List.all_iff_forall_prop)

theorem readHex_of_readable {s : String} (readable : ReadableHex s) :
    readHex (dropHexMark s) = .ok (hexNumber (behindMark s)) := by
  unfold ReadableHex at readable
  rw [← toList_dropHexMark] at readable ⊢
  rw [readHex, readHex_of_digits (String.toList_eq_nil_iff.not.mp readable.1) readable.2]
  rfl

theorem readHex_of_not_readable {s : String} (unreadable : ¬ ReadableHex s) :
    readHex (dropHexMark s) =
      .error (.unreadable ⟨dropHexMark s, .sixteen, .malformed⟩) := by
  rw [ReadableHex, not_and_or, not_not, ← toList_dropHexMark, String.toList_eq_nil_iff]
    at unreadable
  push Not at unreadable
  rw [readHex, readHex_of_not_digits unreadable]
  rfl

namespace Converter

variable {c : Converter}

/-- The quotient of `n` smallest units is inside the bounds of a division. -/
def Divides (c : Converter) (n : ℕ) : Prop := Decimal.InRange c.precision (n / 10 ^ c.decimals)

/-- Every strict conversion answers every text. The quotients of the numbers that are read are taken
to be inside their bounds. -/
structure AnswersEveryText (c : Converter) : Prop where
  hexUnits : ∀ s, ((∀ d ∈ behindMark s, IsHexDigit d) → c.Divides (hexNumber (behindMark s))) →
    Answered (c.tokensOfHexUnits s)
  decimalUnits : ∀ s : String,
    ((∀ d ∈ s.toList, d.isDigit) → c.Divides (Nat.ofDigitChars 10 s.toList 0)) →
    Answered (c.tokensOfDecimalUnits (some s))
  missingUnits : Answered (c.tokensOfDecimalUnits none)
  decimalTokens : ∀ t, Answered (c.decimalUnitsOfTokens t)
  hexTokens : ∀ t, Answered (c.hexUnitsOfTokens t)
  hexOfDecimal : ∀ s, Answered (hexOfDecimal s)
  multiplyHex : ∀ a b, Answered (multiplyHex a b)

theorem not_answered_tokensOfUnits (imprecise : Decimal.maxPrecision < c.precision) (n : ℕ) :
    ¬ Answered (c.tokensOfUnits n) := by
  rw [tokensOfUnits, Decimal.divide_of_imprecise (by exact_mod_cast imprecise)]
  simp [Answered, Except.mapError]

theorem answered_tokensOfUnits_iff {n : ℕ} (divides : c.Divides n) :
    Answered (c.tokensOfUnits n) ↔ c.precision ≤ Decimal.maxPrecision := by
  constructor
  · intro answered
    by_contra imprecise
    exact not_answered_tokensOfUnits (Nat.lt_of_not_le imprecise) n answered
  · intro precise
    exact Or.inl ⟨_, tokensOfUnits_of_inRange precise divides⟩

/-- Zero and a missing number are answered before anything is divided. -/
theorem tokensOfHexUnits_eq (c : Converter) (s : String) :
    c.tokensOfHexUnits s =
      if s = zeroHex ∨ behindMark s = [] then .ok zeroDecimal
      else (readHex (dropHexMark s)).bind c.tokensOfUnits := by
  unfold tokensOfHexUnits
  by_cases zero : s = zeroHex
  · rw [if_pos zero, if_pos (Or.inl zero)]
  · rw [if_neg zero, if_congr (or_iff_right zero) rfl rfl,
      ← if_congr (dropHexMark_eq_empty_iff s) rfl rfl]
    rfl

theorem readHex_dropHexMark {s : String} {n : ℕ} (read : readHex (dropHexMark s) = .ok n) :
    ReadableHex s ∧ n = hexNumber (behindMark s) := by
  by_cases readable : ReadableHex s
  · rw [readHex_of_readable readable] at read
    cases read
    exact ⟨readable, rfl⟩
  · rw [readHex_of_not_readable readable] at read
    cases read

theorem answered_tokensOfHexUnits (precise : c.precision ≤ Decimal.maxPrecision) {s : String}
    (divides : (∀ d ∈ behindMark s, IsHexDigit d) → c.Divides (hexNumber (behindMark s))) :
    Answered (c.tokensOfHexUnits s) := by
  rw [tokensOfHexUnits_eq]
  split
  · exact Or.inl ⟨_, rfl⟩
  · apply (answered_mapError _).bind
    intro n read
    obtain ⟨readable, rfl⟩ := readHex_dropHexMark read
    exact (answered_tokensOfUnits_iff (divides readable.2)).mpr precise

theorem tokensOfHexUnits_of_pos {s : String} (digits : ∀ d ∈ behindMark s, IsHexDigit d)
    (positive : 0 < hexNumber (behindMark s)) :
    c.tokensOfHexUnits s = c.tokensOfUnits (hexNumber (behindMark s)) := by
  have early : ¬ (s = zeroHex ∨ behindMark s = []) := by
    rintro (rfl | empty)
    · exact absurd positive (by decide)
    · rw [empty] at positive
      exact absurd positive (by decide)
  rw [tokensOfHexUnits_eq, if_neg early, readHex_of_readable ⟨(not_or.mp early).2, digits⟩]
  rfl

theorem answered_tokensOfDecimalUnits (precise : c.precision ≤ Decimal.maxPrecision) {s : String}
    (divides : (∀ d ∈ s.toList, d.isDigit) → c.Divides (Nat.ofDigitChars 10 s.toList 0)) :
    Answered (c.tokensOfDecimalUnits (some s)) := by
  unfold tokensOfDecimalUnits
  dsimp only
  split
  · exact Or.inl ⟨_, rfl⟩
  · rename_i nonempty
    apply (answered_mapError _).bind
    intro n read
    have digits : ∀ d ∈ s.toList, d.isDigit := by
      by_contra bad
      push Not at bad
      have refused := readDecimal_of_not_digits (Or.inr bad)
      rw [refused] at read
      cases read
    rw [readDecimal_of_digits nonempty digits] at read
    have number : n = Nat.ofDigitChars 10 s.toList 0 := by
      split at read
      · cases read
        rfl
      · cases read
    rw [number]
    exact (answered_tokensOfUnits_iff (divides digits)).mpr precise

theorem answered_scale_iff (zeros : ℕ) :
    Answered (scale zeros) ↔ zeros < maxDecimalDigits := by
  rw [scale_eq]
  split
  · rename_i readable
    exact iff_of_true (Or.inl ⟨_, rfl⟩) readable
  · rename_i long
    simp only [Answered]
    simpa using Nat.le_of_not_lt long

/-- A token text is answered if its multiplier can be read, and any other text is in any case. -/
theorem answered_unitsOfTokens_iff (c : Converter) (t : String) :
    Answered (c.unitsOfTokens t) ↔
      (TokenText c.decimals t → c.decimals - (fractionPart t).length < maxDecimalDigits) := by
  by_cases text : TokenText c.decimals t
  · rw [unitsOfTokens_eq_scale text, answered_map_iff, answered_scale_iff, imp_iff_right text]
  · obtain ⟨refused, reason, fault⟩ := (tokenText_or_fault c.decimals t).resolve_left text
    obtain ⟨cause, -, -, -, failed⟩ := unitsOfTokens_of_fault fault
    exact iff_of_true (Or.inr ⟨cause, failed⟩) fun other => absurd other text

theorem answered_tokens_iff (c : Converter) (t : String) :
    (Answered (c.decimalUnitsOfTokens t) ↔ Answered (c.unitsOfTokens t)) ∧
      (Answered (c.hexUnitsOfTokens t) ↔ Answered (c.unitsOfTokens t)) := by
  by_cases empty : t = ""
  · have missing : Answered (c.unitsOfTokens t) := by
      rw [answered_unitsOfTokens_iff]
      intro text
      exact absurd (by rw [empty]; rfl) text.nonempty
    rw [decimalUnitsOfTokens, hexUnitsOfTokens, if_pos empty, if_pos empty]
    exact ⟨iff_of_true (Or.inl ⟨_, rfl⟩) missing, iff_of_true (Or.inl ⟨_, rfl⟩) missing⟩
  · rw [decimalUnitsOfTokens_eq empty, hexUnitsOfTokens_eq empty, answered_map_iff,
      answered_map_iff]
    exact ⟨Iff.rfl, Iff.rfl⟩

theorem answersEveryText_iff (c : Converter) :
    c.AnswersEveryText ↔
      c.decimals < maxDecimalDigits ∧ c.precision ≤ Decimal.maxPrecision := by
  constructor
  · intro answers
    constructor
    · -- One token has no fraction, so that its multiplier keeps all zeros.
      have text : TokenText c.decimals "1" :=
        ⟨by decide, Nat.zero_le _, by decide, List.all_eq_true.mp (by decide), by decide⟩
      have one := answers.hexTokens "1"
      rw [(answered_tokens_iff c "1").2, answered_unitsOfTokens_iff] at one
      exact one text
    · -- The quotient of one token is one, which is inside its bounds whatever the settings are.
      have digits : ∀ d ∈ behindMark (hex (10 ^ c.decimals)), IsHexDigit d := by
        rw [behindMark_hex]
        intro d inside
        exact isHexDigit_toDigits inside
      have number : hexNumber (behindMark (hex (10 ^ c.decimals))) = 10 ^ c.decimals := by
        rw [behindMark_hex, hexNumber_toDigits]
      have positive : 0 < hexNumber (behindMark (hex (10 ^ c.decimals))) := by
        rw [number]
        exact Nat.pow_pos (by decide)
      have divides : c.Divides (hexNumber (behindMark (hex (10 ^ c.decimals)))) := by
        have one := Decimal.inRange_one_div c.precision_pos (Nat.zero_le _)
        rw [pow_zero, div_one] at one
        rw [number, Divides, Nat.cast_pow, Nat.cast_ofNat, div_self (by positivity)]
        exact one
      have one := answers.hexUnits (hex (10 ^ c.decimals)) fun _ => divides
      rw [tokensOfHexUnits_of_pos digits positive] at one
      exact (answered_tokensOfUnits_iff divides).mp one
  · intro settings
    have tokens : ∀ t, Answered (c.unitsOfTokens t) := by
      intro t
      rw [answered_unitsOfTokens_iff]
      intro _
      omega
    constructor
    · intro s
      exact answered_tokensOfHexUnits settings.2
    · intro s
      exact answered_tokensOfDecimalUnits settings.2
    · exact Or.inl ⟨_, rfl⟩
    · intro t
      exact (answered_tokens_iff c t).1.mpr (tokens t)
    · intro t
      exact (answered_tokens_iff c t).2.mpr (tokens t)
    · exact answered_hexOfDecimal
    · exact answered_multiplyHex

theorem settings_of_make {decimals precision : ℤ} (accepted : make decimals precision = .ok c) :
    (c.decimals : ℤ) = decimals ∧ (c.precision : ℤ) = precision := by
  unfold make at accepted
  split at accepted
  · cases accepted
  · split at accepted
    · cases accepted
      constructor
      · exact Int.toNat_of_nonneg (by omega)
      · exact Int.toNat_of_nonneg (by omega)
    · cases accepted

/-- Accepted settings answer every text if and only if they are within the limits of numerals and of
divisions, which are not checked. Beyond the one limit the token texts with a multiplier of too many
digits fail, and beyond the other every number but zero. -/
theorem accepted_settings_answer_iff (decimals precision : ℤ) (c : Converter)
    (accepted : make decimals precision = .ok c) :
    (c.AnswersEveryText ↔ decimals < 4300 ∧ precision ≤ 999999999999999999) ∧
    (∀ t, Answered (c.decimalUnitsOfTokens t) ↔
      (TokenText c.decimals t → decimals < 4300 + (fractionPart t).length)) ∧
    (∀ t, Answered (c.hexUnitsOfTokens t) ↔
      (TokenText c.decimals t → decimals < 4300 + (fractionPart t).length)) ∧
    ∀ s, (∀ d ∈ behindMark s, IsHexDigit d) → 0 < hexNumber (behindMark s) →
      c.Divides (hexNumber (behindMark s)) →
      (Answered (c.tokensOfHexUnits s) ↔ precision ≤ 999999999999999999) := by
  obtain ⟨sameDecimals, samePrecision⟩ := settings_of_make accepted
  have digits : maxDecimalDigits = 4300 := rfl
  have most : Decimal.maxPrecision = 999999999999999999 := rfl
  have multiplier : ∀ t, Answered (c.unitsOfTokens t) ↔
      (TokenText c.decimals t → decimals < 4300 + (fractionPart t).length) := by
    intro t
    rw [answered_unitsOfTokens_iff]
    apply imp_congr_right
    intro text
    have fits := text.fits
    omega
  refine ⟨?_, ?_, ?_, ?_⟩
  · rw [answersEveryText_iff]
    omega
  · intro t
    rw [(answered_tokens_iff c t).1, multiplier]
  · intro t
    rw [(answered_tokens_iff c t).2, multiplier]
  · intro s hexDigits positive divides
    rw [tokensOfHexUnits_of_pos hexDigits positive, answered_tokensOfUnits_iff divides]
    omega

/-- Of the many decimals that settings may have, 4299 still answer every text. -/
theorem accepted_settings_answer_iff_of_most_decimals :
    ∃ c : Converter, make 4299 7 = .ok c ∧ c.AnswersEveryText := by
  have accepted : make 4299 7 = .ok ⟨4299, 7, by decide⟩ := rfl
  obtain ⟨answers, -⟩ := accepted_settings_answer_iff 4299 7 _ accepted
  exact ⟨_, accepted, answers.mpr (by decide)⟩

/-- One decimal more makes the multiplier of a whole token too long, and of a precision that is too
large even one smallest unit cannot be shown. -/
theorem accepted_settings_fail :
    (∃ c : Converter, make 4300 7 = .ok c ∧
      c.hexUnitsOfTokens "1" = .error (.multiplierTooLong 4301)) ∧
    (∃ c : Converter, make 18 1000000000000000000 = .ok c ∧ c.Divides 1 ∧
      c.tokensOfHexUnits "0x1" = .error (.division .precisionOutOfRange)) ∧
    ∃ c : Converter, make 18 9223372036854775808 = .ok c ∧ c.Divides 1 ∧
      c.tokensOfHexUnits "0x1" = .error (.division .precisionBeyondWord) := by
  have divides : ∀ c : Converter, c.decimals ≤ Decimal.maxExponent → c.Divides 1 := by
    intro c few
    rw [Divides, Nat.cast_one]
    exact Decimal.inRange_one_div c.precision_pos few
  refine ⟨⟨⟨4300, 7, by decide⟩, rfl, rfl⟩, ⟨⟨18, 1000000000000000000, by decide⟩, rfl, ?_, rfl⟩,
    ⟨⟨18, 9223372036854775808, by decide⟩, rfl, ?_, rfl⟩⟩
  · exact divides _ (by decide)
  · exact divides _ (by decide)

end Converter

end Amount

end WalletKit
