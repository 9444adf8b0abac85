import Mathlib.Tactic.SplitIfs
import WalletKit.Amount.Tolerant
import WalletKit.Proofs.Text.Quoted

set_option autoImplicit false

namespace WalletKit

open Text

theorem notMem_toDigits {c : Char} (other : c.isDigit = false) (n : ℕ) :
    c ∉ Nat.toDigits 10 n := by
  intro inside
  rw [Digits.isDigit_toDigits inside] at other
  cases other

theorem toDigits_inj {m n : ℕ} : Nat.toDigits 10 m = Nat.toDigits 10 n ↔ m = n := by
  refine ⟨fun same => ?_, congrArg (Nat.toDigits 10)⟩
  have values := congrArg (Nat.ofDigitChars 10 · 0) same
  simpa only [Nat.ofDigitChars_toDigits (by decide : 1 < 10) (by decide : 10 ≤ 10)] using values

theorem onOneLine_toDigits (n : ℕ) : OnOneLine (Nat.toDigits 10 n) := by
  intro c inside breaks
  have bounds := Char.isDigit_iff_toNat.mp (Digits.isDigit_toDigits inside)
  have zero : '0'.toNat = 48 := rfl
  have nine : '9'.toNat = 57 := rfl
  simp only [BreaksLine, List.mem_cons, List.not_mem_nil, or_false] at breaks
  omega

theorem toList_toString_int (v : ℤ) :
    (toString v).toList =
      if 0 ≤ v then Nat.toDigits 10 v.toNat else '-' :: Nat.toDigits 10 (-v).toNat := by
  rw [Int.toString_eq_repr, Int.repr_eq_if]
  split
  · exact Nat.toList_repr
  · rw [String.toList_append, Nat.toList_repr]
    rfl

theorem blank_notMem_toString_int (v : ℤ) : ' ' ∉ (toString v).toList := by
  rw [toList_toString_int]
  split
  · exact notMem_toDigits (by decide) _
  · rw [List.mem_cons, not_or]
    exact ⟨by decide, notMem_toDigits (by decide) _⟩

theorem onOneLine_toString_int (v : ℤ) : OnOneLine (toString v).toList := by
  rw [toList_toString_int]
  split
  · exact onOneLine_toDigits _
  · exact onOneLine_cons_iff.mpr ⟨by decide, onOneLine_toDigits _⟩

theorem toList_toString_int_inj {v w : ℤ} :
    (toString v).toList = (toString w).toList ↔ v = w := by
  refine ⟨fun same => ?_, congrArg fun v => (toString v).toList⟩
  rw [toList_toString_int, toList_toString_int] at same
  split_ifs at same with positive positive' positive'
  · have numbers := toDigits_inj.mp same
    omega
  · exact absurd (same ▸ List.mem_cons_self) (notMem_toDigits (by decide) v.toNat)
  · exact absurd (same ▸ List.mem_cons_self) (notMem_toDigits (by decide) w.toNat)
  · have numbers := toDigits_inj.mp (List.cons.inj same).2
    omega

/-- What holds no blank is what stands before the first blank. -/
theorem eq_of_append_blank {front front' back back' : List Char} (word : ' ' ∉ front)
    (word' : ' ' ∉ front') (same : front ++ ' ' :: back = front' ++ ' ' :: back') :
    front = front' ∧ back = back' := by
  have pieces := congrArg (List.splitOn ' ') same
  rw [List.splitOn_append_cons_self_of_not_mem word,
    List.splitOn_append_cons_self_of_not_mem word'] at pieces
  have first := (List.cons.inj pieces).1
  rw [first] at same
  exact ⟨first, (List.cons.inj (List.append_cancel_left same)).2⟩

namespace ParseError

/-- What a message says behind the quoted text. -/
def sayingBehind (radix : ℤ) (reason : String) : String :=
  " as a base-" ++ toString radix ++ " integer" ++ if reason = "" then "" else ": " ++ reason

theorem toList_sayingBehind (radix : ℤ) (reason : String) :
    (sayingBehind radix reason).toList =
      " as a base-".toList ++ ((toString radix).toList ++ ' ' :: ("integer".toList ++
        (if reason = "" then "" else ": " ++ reason).toList)) := by
  simp only [sayingBehind, String.toList_append, List.append_assoc]
  rfl

theorem describe_eq (text : String) (radix : ℤ) (reason : String) :
    describe text radix reason = "Cannot parse " ++ (quoted text ++ sayingBehind radix reason) := by
  unfold describe sayingBehind
  split
  · simp only [String.append_assoc, String.append_empty]
  · simp only [String.append_assoc]

theorem toList_describe (text : String) (radix : ℤ) (reason : String) :
    (describe text radix reason).toList = "Cannot parse ".toList ++
      (quote (ofString text) ++ (sayingBehind radix reason).toList) := by
  rw [describe_eq, String.toList_append, String.toList_append, toList_quoted]

/-- The text that a message quotes. -/
def quotedText? (message : String) : Option Text :=
  (unquote? (message.toList.drop "Cannot parse ".length)).map Prod.fst

theorem quotedText?_describe (text : String) (radix : ℤ) (reason : String) :
    quotedText? (describe text radix reason) = some (ofString text) := by
  have behind : (describe text radix reason).toList.drop "Cannot parse ".length =
      quote (ofString text) ++ (sayingBehind radix reason).toList := by
    rw [toList_describe]
    exact List.drop_left
  rw [quotedText?, behind, unquote?_quote_append]
  rfl

theorem sayingBehind_inj {radix radix' : ℤ} {reason reason' : String} :
    sayingBehind radix reason = sayingBehind radix' reason' ↔
      radix = radix' ∧ reason = reason' := by
  constructor
  · intro same
    have shown := congrArg String.toList same
    rw [toList_sayingBehind, toList_sayingBehind] at shown
    obtain ⟨numerals, endings⟩ := eq_of_append_blank (blank_notMem_toString_int radix)
      (blank_notMem_toString_int radix') (List.append_cancel_left shown)
    refine ⟨toList_toString_int_inj.mp numerals, ?_⟩
    have announced := String.toList_inj.mp (List.append_cancel_left endings)
    have noEmpty (s : String) : ": " ++ s ≠ "" :=
      fun none => absurd (String.append_eq_empty_iff.mp none).1 (by decide)
    split_ifs at announced with empty empty' empty'
    · rw [empty, empty']
    · exact absurd announced.symm (noEmpty reason')
    · exact absurd announced (noEmpty reason)
    · exact (String.append_right_inj ": ").mp announced
  · rintro ⟨rfl, rfl⟩
    rfl

theorem describe_inj {text text' : String} {radix radix' : ℤ} {reason reason' : String} :
    describe text radix reason = describe text' radix' reason' ↔
      text = text' ∧ radix = radix' ∧ reason = reason' := by
  rw [← String.toList_inj, toList_describe, toList_describe, List.append_cancel_left_eq,
    quote_append_inj, ofString_inj, String.toList_inj, sayingBehind_inj]

theorem onOneLine_describe_iff {text : String} {radix : ℤ} {reason : String} :
    OnOneLine (describe text radix reason).toList ↔ OnOneLine reason.toList := by
  have opening : OnOneLine "Cannot parse ".toList := by decide
  have naming : OnOneLine " as a base-".toList := by decide
  have blank : ¬ BreaksLine ' ' := by decide
  have closing : OnOneLine "integer".toList := by decide
  have ending : OnOneLine (if reason = "" then "" else ": " ++ reason).toList ↔
      OnOneLine reason.toList := by
    have announcing : OnOneLine ": ".toList := by decide
    split
    · rename_i empty
      rw [empty]
    · rw [String.toList_append, onOneLine_append_iff, and_iff_right announcing]
  rw [toList_describe, toList_sayingBehind]
  simp only [onOneLine_append_iff, onOneLine_cons_iff, ending]
  simp only [opening, naming, blank, closing, onOneLine_quote, onOneLine_toString_int,
    not_false_eq_true, true_and]

theorem toList_fractionTooLong (digits decimals : ℕ) :
    (Reason.fractionTooLong digits decimals).text.toList =
      Nat.toDigits 10 digits ++ ' ' :: ("fractional digits exceed ".toList ++
        (Nat.toDigits 10 decimals ++ ' ' :: "decimals".toList)) := by
  change (toString digits ++ " fractional digits exceed " ++ toString decimals ++
    " decimals").toList = _
  simp only [String.toList_append, Nat.toString_eq_repr, Nat.toList_repr, List.append_assoc]
  rfl

theorem onOneLine_text (reason : Reason) : OnOneLine reason.text.toList := by
  cases reason with
  | fractionTooLong digits decimals =>
      have blank : ¬ BreaksLine ' ' := by decide
      have naming : OnOneLine "fractional digits exceed ".toList := by decide
      have closing : OnOneLine "decimals".toList := by decide
      rw [toList_fractionTooLong]
      simp only [onOneLine_append_iff, onOneLine_cons_iff]
      exact ⟨onOneLine_toDigits digits, blank, naming, onOneLine_toDigits decimals, blank, closing⟩
  | malformed | tooManyDigits | severalPoints | oddLength => decide

/-- Only one kind of reason begins with a digit. -/
theorem head?_text_isDigit (reason : Reason) :
    reason.text.toList.head?.any Char.isDigit = true ↔
      ∃ digits decimals, reason = .fractionTooLong digits decimals := by
  cases reason with
  | fractionTooLong digits decimals =>
      refine iff_of_true ?_ ⟨digits, decimals, rfl⟩
      obtain ⟨c, cs, numeral⟩ :=
        List.exists_cons_of_ne_nil (Nat.toDigits_ne_nil (b := 10) (n := digits))
      rw [toList_fractionTooLong, numeral]
      exact Digits.isDigit_toDigits (n := digits) (by rw [numeral]; exact List.mem_cons_self)
  | malformed | tooManyDigits | severalPoints | oddLength =>
      refine iff_of_false (by decide) ?_
      rintro ⟨digits, decimals, same⟩
      cases same

theorem text_inj {reason reason' : Reason} : reason.text = reason'.text ↔ reason = reason' := by
  constructor
  · intro same
    have kind : (∃ digits decimals, reason = .fractionTooLong digits decimals) ↔
        ∃ digits decimals, reason' = .fractionTooLong digits decimals := by
      rw [← head?_text_isDigit, ← head?_text_isDigit, same]
    by_cases numbered : ∃ digits decimals, reason = .fractionTooLong digits decimals
    · obtain ⟨digits, decimals, rfl⟩ := numbered
      obtain ⟨digits', decimals', rfl⟩ := kind.mp ⟨digits, decimals, rfl⟩
      have shown := congrArg String.toList same
      rw [toList_fractionTooLong, toList_fractionTooLong] at shown
      obtain ⟨first, behind⟩ := eq_of_append_blank (notMem_toDigits (by decide) digits)
        (notMem_toDigits (by decide) digits') shown
      obtain ⟨second, -⟩ := eq_of_append_blank (notMem_toDigits (by decide) decimals)
        (notMem_toDigits (by decide) decimals') (List.append_cancel_left behind)
      rw [toDigits_inj.mp first, toDigits_inj.mp second]
    · have plain := kind.not.mp numbered
      cases reason with
      | fractionTooLong digits decimals => exact absurd ⟨digits, decimals, rfl⟩ numbered
      | malformed | tooManyDigits | severalPoints | oddLength =>
          cases reason' with
          | fractionTooLong digits decimals => exact absurd ⟨digits, decimals, rfl⟩ plain
          | malformed | tooManyDigits | severalPoints | oddLength =>
              first | rfl | exact absurd same (by decide)
  · exact congrArg Reason.text

theorem radix_inj {base base' : Base} : (base.radix : ℤ) = base'.radix ↔ base = base' := by
  cases base <;> cases base' <;> decide

theorem message_inj {e e' : ParseError} : e.message = e'.message ↔ e = e' := by
  cases e
  cases e'
  rw [message, message, describe_inj, radix_inj, text_inj, ParseError.mk.injEq]

theorem onOneLine_message (e : ParseError) : OnOneLine e.message.toList :=
  onOneLine_describe_iff.mpr (onOneLine_text e.reason)

end ParseError

namespace Amount

theorem onOneLine_standIn {what : String} (oneLine : OnOneLine what.toList)
    (unreadable zero : String) :
    ∀ record ∈ (standIn what unreadable zero).records, OnOneLine record.text.toList := by
  have opening : OnOneLine "Unreadable ".toList := by decide
  have naming : OnOneLine " amount ".toList := by decide
  have closing : OnOneLine ", using ".toList := by decide
  intro record inside
  rw [List.mem_singleton.mp inside]
  simp only [String.toList_append, toList_quoted, onOneLine_append_iff]
  exact ⟨⟨⟨⟨⟨opening, oneLine⟩, naming⟩, onOneLine_quote _⟩, closing⟩, onOneLine_quote _⟩

theorem onOneLine_gweiOfHex (s : String) :
    ∀ record ∈ (gweiOfHex s).records, OnOneLine record.text.toList := by
  unfold gweiOfHex
  dsimp only
  split_ifs
  · exact List.forall_mem_nil _
  · exact List.forall_mem_nil _
  · split
    · exact onOneLine_standIn (by decide) s zeroDecimal
    · exact List.forall_mem_nil _

theorem onOneLine_hexOfGwei (s : String) :
    ∀ record ∈ (hexOfGwei s).records, OnOneLine record.text.toList := by
  unfold hexOfGwei
  split_ifs
  · exact List.forall_mem_nil _
  · split
    · exact onOneLine_standIn (by decide) s zeroHex
    · exact List.forall_mem_nil _

/-- The text in a message is read back from it, and the message tells errors apart, whatever their
texts, radices and reasons are. Quoted texts, and so messages and records of the tolerant
conversions, stand on one line; only a reason can bring further lines into a message. -/
theorem texts_quoted_faithfully_on_one_line :
    (∀ text radix reason, ParseError.quotedText? (ParseError.describe text radix reason) =
      some (ofString text)) ∧
    (∀ text text' radix radix' reason reason',
      ParseError.describe text radix reason = ParseError.describe text' radix' reason' ↔
        text = text' ∧ radix = radix' ∧ reason = reason') ∧
    (∀ e e' : ParseError, e.message = e'.message ↔ e = e') ∧
    (∀ t rest, unquote? (quote t ++ rest) = some (t, rest)) ∧
    (∀ t, OnOneLine (quote t)) ∧
    (∀ text radix reason,
      OnOneLine (ParseError.describe text radix reason).toList ↔ OnOneLine reason.toList) ∧
    (∀ e : ParseError, OnOneLine e.message.toList) ∧
    ∀ s, ∀ record ∈ (gweiOfHex s).records ++ (hexOfGwei s).records ++
      (gweiTextOfHex s).records ++ (hexTextOfGwei s).records, OnOneLine record.text.toList := by
  refine ⟨ParseError.quotedText?_describe, fun _ _ _ _ _ _ => ParseError.describe_inj,
    fun _ _ => ParseError.message_inj, unquote?_quote_append, onOneLine_quote,
    fun _ _ _ => ParseError.onOneLine_describe_iff, ParseError.onOneLine_message, ?_⟩
  intro s
  simp only [List.forall_mem_append]
  have hex := onOneLine_gweiOfHex s
  have decimal := onOneLine_hexOfGwei s
  -- The plain conversions keep the records of those that tell the kind.
  exact ⟨⟨⟨hex, decimal⟩, hex⟩, decimal⟩

/-- Both quotes, a newline and the words of a message. -/
def imitation : String := "0x' as a base-16 integer: \"\n"

theorem texts_quoted_faithfully_on_one_line_of_imitation :
    ParseError.quotedText? (ParseError.describe imitation 10 "too many digits") =
        some (ofString imitation) ∧
      ParseError.describe imitation 10 "" ≠ ParseError.describe "0x" 16 "\"\n" ∧
      OnOneLine (ParseError.describe imitation 10 "too many digits").toList ∧
      ∃ record, record ∈ (gweiOfHex imitation).records ++ (hexOfGwei imitation).records ++
        (gweiTextOfHex imitation).records ++ (hexTextOfGwei imitation).records ∧
        OnOneLine record.text.toList := by
  obtain ⟨reads, tells, -, -, -, oneLine, -, records⟩ := texts_quoted_faithfully_on_one_line
  refine ⟨reads imitation 10 "too many digits", ?_, (oneLine imitation 10 _).mpr (by decide), ?_⟩
  · intro same
    exact absurd ((tells _ _ _ _ _ _).mp same).1 (by decide)
  · obtain ⟨record, reported⟩ : ∃ record, record ∈ (gweiOfHex imitation).records := by
      rw [show (gweiOfHex imitation).records =
        (standIn "hex" imitation zeroDecimal).records from rfl]
      exact ⟨_, List.mem_singleton_self _⟩
    have listed : record ∈ (gweiOfHex imitation).records ++ (hexOfGwei imitation).records ++
        (gweiTextOfHex imitation).records ++ (hexTextOfGwei imitation).records :=
      List.mem_append_left _ (List.mem_append_left _ (List.mem_append_left _ reported))
    exact ⟨record, listed, records imitation record listed⟩

end Amount

end WalletKit
