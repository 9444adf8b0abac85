import WalletKit.Proofs.Amount.RoundTrip
import WalletKit.Proofs.Amount.Tolerance

set_option autoImplicit false

namespace WalletKit.Amount

open Digits Numeral

/-- Digits, and behind them at most one point with digits behind it. -/
def DecimalText (s : String) : Prop :=
  ∃ whole fraction : List Char, whole ≠ [] ∧ (∀ c ∈ whole, c.isDigit) ∧
    (∀ c ∈ fraction, c.isDigit) ∧ (s.toList = whole ∨ s.toList = whole ++ '.' :: fraction)

/-- Only a decimal is answered with a value, and every other text with the marked zero. -/
structure MarkedUnlessDecimal (s : String) : Prop where
  value : (hexOfGwei s).value.kind = .value → DecimalText s
  standIn : ¬ DecimalText s → (hexOfGwei s).value = ⟨"0x0", .zeroDefault⟩

theorem fractionPart_of_decimal {s : String} {whole : List Char} (fraction : List Char)
    (digits : ∀ c ∈ whole, c.isDigit) :
    (s.toList = whole → fractionPart s = []) ∧
      (s.toList = whole ++ '.' :: fraction → fractionPart s = fraction) := by
  have points : ∀ c ∈ whole, decide (c ≠ '.') = true := by
    intro c inside
    exact decide_eq_true (ne_point_of_isDigit (digits c inside))
  constructor
  · intro alone
    rw [fractionPart, alone, List.dropWhile_eq_nil_iff.mpr points, List.drop_nil]
  · intro continued
    rw [fractionPart, continued, List.dropWhile_append_of_pos points]
    rfl

theorem toList_eq_parts (s : String) :
    s.toList = wholePart s ∨ s.toList = wholePart s ++ '.' :: fractionPart s := by
  have split : wholePart s ++ s.toList.dropWhile (· ≠ '.') = s.toList :=
    List.takeWhile_append_dropWhile
  rw [fractionPart]
  cases behind : s.toList.dropWhile (· ≠ '.') with
  | nil =>
      rw [behind, List.append_nil] at split
      exact Or.inl split.symm
  | cons c rest =>
      have stopped := List.head?_dropWhile_not (· ≠ '.') s.toList
      rw [behind] at stopped split
      have point : c = '.' := by simpa using stopped
      subst point
      exact Or.inr split.symm

theorem decimalText_iff (s : String) :
    DecimalText s ↔ wholePart s ≠ [] ∧ (∀ c ∈ wholePart s, c.isDigit) ∧
      ∀ c ∈ fractionPart s, c.isDigit := by
  constructor
  · intro decimal
    obtain ⟨whole, fraction, nonempty, digits, behind, shape⟩ := decimal
    have front := wholePart_of_decimal digits shape
    have parts := fractionPart_of_decimal (s := s) fraction digits
    rw [front]
    refine ⟨nonempty, digits, ?_⟩
    rcases shape with alone | continued
    · rw [parts.1 alone]
      exact List.forall_mem_nil _
    · rw [parts.2 continued]
      exact behind
  · intro parts
    exact ⟨wholePart s, fractionPart s, parts.1, parts.2.1, parts.2.2, toList_eq_parts s⟩

theorem decimalText_iff_of_readable {s : String} (readable : ReadableWhole (wholePart s)) :
    DecimalText s ↔ ∀ c ∈ fractionPart s, c.isDigit := by
  rw [decimalText_iff, and_iff_right readable.nonempty, and_iff_right readable.digits]

theorem kind_hexOfGwei_iff {s : String} (nonempty : s ≠ "") :
    (hexOfGwei s).value.kind = .value ↔ ReadableWhole (wholePart s) := by
  constructor
  · intro read
    by_contra unreadable
    rw [hexOfGwei_of_not_readable nonempty unreadable] at read
    cases read
  · intro readable
    rw [hexOfGwei_of_readable readable]

/-- The price is answered as it should be unless something else than digits stands behind the
point of a price whose whole part is readable. -/
theorem markedUnlessDecimal_iff {s : String} (nonempty : s ≠ "") :
    MarkedUnlessDecimal s ↔
      (ReadableWhole (wholePart s) → ∀ c ∈ fractionPart s, c.isDigit) := by
  constructor
  · intro marked readable
    apply (decimalText_iff_of_readable readable).mp
    exact marked.value ((kind_hexOfGwei_iff nonempty).mpr readable)
  · intro digits
    constructor
    · intro read
      have readable := (kind_hexOfGwei_iff nonempty).mp read
      exact (decimalText_iff_of_readable readable).mpr (digits readable)
    · intro malformed
      have unreadable : ¬ ReadableWhole (wholePart s) := by
        intro readable
        exact malformed ((decimalText_iff_of_readable readable).mpr (digits readable))
      rw [hexOfGwei_of_not_readable nonempty unreadable]
      rfl

namespace Converter

/-- What is no digit behind the point is a fault to every converter. -/
theorem unitsOfTokens_of_not_digit {s : String} {bad : Char} (inside : bad ∈ fractionPart s)
    (noDigit : ¬ bad.isDigit) (c : Converter) :
    ∃ cause, c.unitsOfTokens s = .error (.unreadable cause) := by
  rcases tokenText_or_fault c.decimals s with text | ⟨text, reason, fault⟩
  · exact absurd (text.fractionPart_digits bad inside) noDigit
  · obtain ⟨cause, -, -, -, refused⟩ := unitsOfTokens_of_fault fault
    exact ⟨cause, refused⟩

theorem exists_unitsOfTokens_of_decimal {s : String} (decimal : DecimalText s)
    (short : (withoutPoint s).length ≤ maxDecimalDigits) :
    ∃ (c : Converter) (units : ℕ), c.unitsOfTokens s = .ok units := by
  obtain ⟨nonempty, whole, fraction⟩ := (decimalText_iff s).mp decimal
  have count : ∀ cs : List Char, (∀ c ∈ cs, c.isDigit) → cs.count '.' = 0 := by
    intro cs digits
    apply List.count_eq_zero.mpr
    intro point
    exact ne_point_of_isDigit (digits _ point) rfl
  have onePoint : s.toList.count '.' ≤ 1 := by
    rcases toList_eq_parts s with alone | continued
    · rw [alone, count _ whole]
      omega
    · rw [continued, List.count_append, List.count_cons_self, count _ whole, count _ fraction]
  have parts := toList_withoutPoint onePoint
  let c : Converter := { decimals := (fractionPart s).length }
  have text : TokenText c.decimals s := by
    refine ⟨onePoint, le_rfl, ?_, ?_, short⟩
    · intro empty
      rw [empty] at parts
      exact nonempty (List.append_eq_nil_iff.mp parts.symm).1
    · rw [parts, List.forall_mem_append]
      exact ⟨whole, fraction⟩
  have multiplier : c.decimals - (fractionPart s).length + 1 ≤ maxDecimalDigits := by
    rw [show c.decimals = (fractionPart s).length from rfl, Nat.sub_self]
    decide
  exact ⟨c, _, unitsOfTokens_of_tokenText text multiplier⟩

end Converter

/-- A price is answered with a value for a decimal and with the marked zero otherwise, unless its
whole part is readable and something else than digits stands behind its point. Then it is read as
its whole part, nothing is reported, and no strict conversion would have read it. -/
theorem prices_judged_by_whole_part (s : String) (nonempty : s ≠ "") :
    (MarkedUnlessDecimal s ↔
      (ReadableWhole (wholePart s) → ∀ c ∈ fractionPart s, c.isDigit)) ∧
    (¬ MarkedUnlessDecimal s →
      hexOfGwei s = { value := ⟨hex (Nat.ofDigitChars 10 (wholePart s) 0), .value⟩ } ∧
        ∀ c : Converter, ∃ cause, c.unitsOfTokens s = .error (.unreadable cause)) ∧
    (MarkedUnlessDecimal s → (hexOfGwei s).value.kind = .value →
      (withoutPoint s).length ≤ maxDecimalDigits →
      ∃ (c : Converter) (units : ℕ), c.unitsOfTokens s = .ok units) := by
  refine ⟨markedUnlessDecimal_iff nonempty, ?_, ?_⟩
  · intro unmarked
    rw [markedUnlessDecimal_iff nonempty] at unmarked
    push Not at unmarked
    obtain ⟨readable, bad, inside, noDigit⟩ := unmarked
    refine ⟨hexOfGwei_of_readable readable, ?_⟩
    intro c
    exact Converter.unitsOfTokens_of_not_digit inside noDigit c
  · intro marked read short
    exact Converter.exists_unitsOfTokens_of_decimal (marked.value read) short

theorem prices_judged_by_whole_part_of_two_points :
    "1.2.3" ≠ "" ∧ ¬ MarkedUnlessDecimal "1.2.3" ∧
      hexOfGwei "1.2.3" = { value := ⟨"0x1", .value⟩ } ∧
      ∃ cause, ({} : Converter).unitsOfTokens "1.2.3" = .error (.unreadable cause) := by
  have nonempty : "1.2.3" ≠ "" := by decide
  obtain ⟨exactly, misread, -⟩ := prices_judged_by_whole_part "1.2.3" nonempty
  have readable : ReadableWhole (wholePart "1.2.3") :=
    ⟨by decide, List.all_eq_true.mp (by decide), by decide⟩
  have unmarked : ¬ MarkedUnlessDecimal "1.2.3" := by
    rw [exactly]
    intro digits
    exact absurd (digits readable '.' (by decide)) (by decide)
  obtain ⟨read, refused⟩ := misread unmarked
  exact ⟨nonempty, unmarked, read, refused {}⟩

/-- An exponent is taken for a fraction and cut off. -/
theorem price_with_exponent_read :
    (hexOfGwei "1.5e9").value = ⟨"0x1", .value⟩ ∧ ¬ DecimalText "1.5e9" := by
  constructor
  · decide
  · rw [decimalText_iff]
    intro parts
    exact absurd (parts.2.2 'e' (by decide)) (by decide)

end WalletKit.Amount
