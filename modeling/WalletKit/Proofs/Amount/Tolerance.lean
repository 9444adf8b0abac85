import Mathlib.Data.List.TakeWhile
import WalletKit.Amount.Tolerant
import WalletKit.Proofs.Amount.Scaling
import WalletKit.Proofs.Numeral.Hexadecimal

set_option autoImplicit false

namespace WalletKit.Amount

open Digits Numeral

/-- A stand-in is reported by one debug record, and a value by none. -/
structure Reported (kind : ResultKind) (records : List LogRecord) : Prop where
  standIn : kind = .zeroDefault → ∃ text, records = [⟨.debug, .amounts, text⟩]
  value : kind = .value → records = []

/-- A result says whether it stands in, and both it and its plain text are reported accordingly. -/
structure MarkedTruthfully (result : Logged Conversion) (plain : Logged String) : Prop where
  isDefault : result.value.isDefault = true ↔ result.value.kind = .zeroDefault
  reported : Reported result.value.kind result.records
  plainText : plain.value = result.value.text
  plainReported : Reported result.value.kind plain.records

theorem reported_value (text : String) :
    let result : Logged Conversion := { value := ⟨text, .value⟩ }
    Reported result.value.kind result.records where
  standIn stands := nomatch stands
  value _ := rfl

theorem reported_standIn (what unreadable zero : String) :
    let result := standIn what unreadable zero
    Reported result.value.kind result.records where
  standIn _ := ⟨_, rfl⟩
  value read := nomatch read

theorem markedTruthfully_map {result : Logged Conversion}
    (reported : Reported result.value.kind result.records) :
    MarkedTruthfully result (result.map Conversion.text) where
  isDefault := decide_eq_true_iff
  reported := reported
  plainText := rfl
  plainReported := reported

theorem behindMark_zeroHex : behindMark zeroHex = ['0'] := by decide

/-- The two early answers are those of the text behind the mark. -/
theorem gweiOfHex_eq (s : String) :
    gweiOfHex s =
      if behindMark s = [] then { value := ⟨zeroDecimal, .value⟩ }
      else match read? .sixteen (behindMark s) with
        | none => standIn "hex" s zeroDecimal
        | some n => { value := ⟨decimal n, .value⟩ } := by
  unfold gweiOfHex
  by_cases zero : s = zeroHex
  · rw [if_pos zero, zero, behindMark_zeroHex]
    rfl
  · have reads : tryRead .sixteen (dropHexMark s) = read? .sixteen (behindMark s) := by
      rw [← toList_dropHexMark]
      rfl
    rw [if_neg zero, if_congr (dropHexMark_eq_empty_iff s) rfl rfl]
    exact reads ▸ rfl

theorem gweiOfHex_of_digits {s : String} (nonempty : behindMark s ≠ [])
    (digits : ∀ c ∈ behindMark s, IsHexDigit c) :
    gweiOfHex s = { value := ⟨decimal (hexNumber (behindMark s)), .value⟩ } := by
  rw [gweiOfHex_eq, if_neg nonempty, read?_sixteen nonempty digits]

theorem gweiOfHex_of_empty {s : String} (empty : behindMark s = []) :
    gweiOfHex s = { value := ⟨zeroDecimal, .value⟩ } := by
  rw [gweiOfHex_eq, if_pos empty]

theorem gweiOfHex_of_not_digits {s : String} (unreadable : ∃ c ∈ behindMark s, ¬ IsHexDigit c) :
    gweiOfHex s = standIn "hex" s zeroDecimal := by
  have nonempty : behindMark s ≠ [] := by
    rintro empty
    obtain ⟨c, inside, -⟩ := unreadable
    rw [empty] at inside
    cases inside
  rw [gweiOfHex_eq, if_neg nonempty, read?_sixteen_eq_none (Or.inr unreadable)]

theorem reported_gweiOfHex (s : String) :
    Reported (gweiOfHex s).value.kind (gweiOfHex s).records := by
  rw [gweiOfHex_eq]
  split
  · exact reported_value _
  · split
    · exact reported_standIn _ _ _
    · exact reported_value _

/-- A whole number that is read in base ten: digits, and not too many of them. -/
structure ReadableWhole (cs : List Char) : Prop where
  nonempty : cs ≠ []
  digits : ∀ c ∈ cs, c.isDigit
  short : cs.length ≤ maxDecimalDigits

instance (cs : List Char) : Decidable (ReadableWhole cs) :=
  decidable_of_iff (cs ≠ [] ∧ cs.all Char.isDigit = true ∧ cs.length ≤ maxDecimalDigits)
    ⟨fun all => ⟨all.1, List.all_eq_true.mp all.2.1, all.2.2⟩,
      fun readable => ⟨readable.nonempty, List.all_eq_true.mpr readable.digits, readable.short⟩⟩

theorem ReadableWhole.ne_empty {s : String} (readable : ReadableWhole s.toList) : s ≠ "" := by
  rintro rfl
  exact readable.nonempty rfl

theorem tryRead_ten_of_readable {cs : List Char} (readable : ReadableWhole cs) :
    tryRead .ten (String.ofList cs) = some (Nat.ofDigitChars 10 cs 0) := by
  have within : withinLimit .ten (String.ofList cs).length = true := by
    rw [String.length_ofList]
    exact decide_eq_true readable.short
  rw [tryRead, if_pos within, String.toList_ofList, read?_ten readable.nonempty readable.digits]

theorem readDecimal_of_readable {s : String} (readable : ReadableWhole s.toList) :
    readDecimal s = .ok (Nat.ofDigitChars 10 s.toList 0) := by
  have short : s.length ≤ maxDecimalDigits := by
    rw [← String.length_toList]
    exact readable.short
  rw [readDecimal, readDecimal_of_digits readable.ne_empty readable.digits, if_pos short]
  rfl

theorem tryRead_ten_of_not_readable {cs : List Char} (unreadable : ¬ ReadableWhole cs) :
    tryRead .ten (String.ofList cs) = none := by
  rw [tryRead, String.length_ofList, String.toList_ofList]
  split
  · rename_i short
    apply read?_ten_eq_none
    by_contra digits
    rw [not_or] at digits
    apply unreadable
    refine ⟨digits.1, ?_, of_decide_eq_true short⟩
    intro c inside
    by_contra bad
    exact digits.2 ⟨c, inside, bad⟩
  · rfl

theorem hexOfGwei_eq {s : String} (nonempty : s ≠ "") :
    hexOfGwei s = match tryRead .ten (String.ofList (wholePart s)) with
      | none => standIn "gwei" s zeroHex
      | some n => { value := ⟨hex n, .value⟩ } := by
  rw [hexOfGwei, if_neg nonempty]
  rfl

theorem hexOfGwei_of_readable {s : String} (readable : ReadableWhole (wholePart s)) :
    hexOfGwei s = { value := ⟨hex (Nat.ofDigitChars 10 (wholePart s) 0), .value⟩ } := by
  have nonempty : s ≠ "" := by
    rintro rfl
    exact readable.nonempty rfl
  rw [hexOfGwei_eq nonempty, tryRead_ten_of_readable readable]

theorem hexOfGwei_of_not_readable {s : String} (nonempty : s ≠ "")
    (unreadable : ¬ ReadableWhole (wholePart s)) :
    hexOfGwei s = standIn "gwei" s zeroHex := by
  rw [hexOfGwei_eq nonempty, tryRead_ten_of_not_readable unreadable]

theorem reported_hexOfGwei (s : String) :
    Reported (hexOfGwei s).value.kind (hexOfGwei s).records := by
  by_cases empty : s = ""
  · rw [hexOfGwei, if_pos empty]
    exact reported_value _
  · rw [hexOfGwei_eq empty]
    split
    · exact reported_standIn _ _ _
    · exact reported_value _

/-- The digits before the point of a well-formed decimal are its whole part. -/
theorem wholePart_of_decimal {s : String} {whole fraction : List Char}
    (digits : ∀ c ∈ whole, c.isDigit)
    (shape : s.toList = whole ∨ s.toList = whole ++ '.' :: fraction) : wholePart s = whole := by
  have points : ∀ c ∈ whole, decide (c ≠ '.') = true := by
    intro c inside
    exact decide_eq_true (Digits.ne_point_of_isDigit (digits c inside))
  rcases shape with alone | continued
  · rw [wholePart, alone, List.takeWhile_eq_self_iff]
    exact points
  · rw [wholePart, continued, List.takeWhile_append_of_pos points]
    exact List.append_nil whole

/-- Every text is answered. Behind its mark a text of hexadecimal digits has their value, no digit
at all is zero, and else zero stands in; of a decimal the whole part counts, and zero stands in for
what does not begin with one. A stand-in is marked and reported once, by the plain conversions
too. -/
theorem tolerant_conversions_marked (s : String) :
    (behindMark s ≠ [] → (∀ c ∈ behindMark s, IsHexDigit c) →
      (gweiOfHex s).value = ⟨decimal (hexNumber (behindMark s)), .value⟩) ∧
    (behindMark s = [] → (gweiOfHex s).value = ⟨"0", .value⟩) ∧
    ((∃ c ∈ behindMark s, ¬ IsHexDigit c) → (gweiOfHex s).value = ⟨"0", .zeroDefault⟩) ∧
    (s = "" → (hexOfGwei s).value = ⟨"0x0", .value⟩) ∧
    (∀ whole fraction, ReadableWhole whole → (∀ c ∈ fraction, c.isDigit) →
      (s.toList = whole ∨ s.toList = whole ++ '.' :: fraction) →
      (hexOfGwei s).value = ⟨hex (Nat.ofDigitChars 10 whole 0), .value⟩) ∧
    (s ≠ "" → ¬ ReadableWhole (wholePart s) → (hexOfGwei s).value = ⟨"0x0", .zeroDefault⟩) ∧
    MarkedTruthfully (gweiOfHex s) (gweiTextOfHex s) ∧
    MarkedTruthfully (hexOfGwei s) (hexTextOfGwei s) := by
  refine ⟨?_, ?_, ?_, ?_, ?_, ?_, markedTruthfully_map (reported_gweiOfHex s),
    markedTruthfully_map (reported_hexOfGwei s)⟩
  · intro nonempty digits
    rw [gweiOfHex_of_digits nonempty digits]
  · intro empty
    rw [gweiOfHex_of_empty empty]
    rfl
  · intro unreadable
    rw [gweiOfHex_of_not_digits unreadable]
    rfl
  · intro empty
    rw [hexOfGwei, if_pos empty]
    rfl
  · intro whole fraction readable _ shape
    have front := wholePart_of_decimal readable.digits shape
    rw [← front] at readable ⊢
    rw [hexOfGwei_of_readable readable]
  · intro nonempty unreadable
    rw [hexOfGwei_of_not_readable nonempty unreadable]
    rfl

/-- Letters count in both cases, a fraction is cut off, and neither is reported. -/
theorem tolerant_conversions_marked_value :
    (gweiOfHex "0x00fF").value = ⟨decimal 255, .value⟩ ∧
      (hexOfGwei "2.999").value = ⟨hex 2, .value⟩ ∧ (hexTextOfGwei "2.999").records = [] := by
  have two : ReadableWhole ['2'] := ⟨by decide, List.all_eq_true.mp (by decide), by decide⟩
  obtain ⟨price, -⟩ := tolerant_conversions_marked "0x00fF"
  obtain ⟨-, -, -, -, cut, -, -, marked⟩ := tolerant_conversions_marked "2.999"
  have whole := cut ['2'] ['9', '9', '9'] two (List.all_eq_true.mp (by decide)) (Or.inr rfl)
  exact ⟨price (by decide) (List.all_iff_forall_prop.mp (by decide)), whole,
    marked.plainReported.value (by rw [whole])⟩

end WalletKit.Amount
