import WalletKit.Proofs.Numeral.Canonical
import WalletKit.Text.Blank

set_option autoImplicit false

namespace WalletKit

/-- The digits of a base; in base sixteen a letter may have either case. -/
def Base.digits : Base → List Char
  | .ten => "0123456789".toList
  | .sixteen => "0123456789abcdefABCDEF".toList

namespace Numeral

theorem digit?_eq_of_ascii (base : Base) {n : ℕ} (ascii : n < 128) :
    base.digit? (Char.ofNat n) =
      if Char.ofNat n ∈ base.digits then some (hexDigitValue (Char.ofNat n)) else none := by
  have all : ∀ n < 128, base.digit? (Char.ofNat n) =
      if Char.ofNat n ∈ base.digits then some (hexDigitValue (Char.ofNat n)) else none := by
    cases base <;> decide +kernel
  exact all n ascii

theorem toNat_lt_of_mem_digits {base : Base} {c : Char} (digit : c ∈ base.digits) :
    c.toNat < 128 := by
  have all : base.digits.all (·.toNat < 128) = true := by cases base <;> decide
  exact List.all_iff_forall_prop.mp all c digit

theorem toNat_lt_of_digit? {base : Base} {c : Char} {d : ℕ} (found : base.digit? c = some d) :
    c.toNat < 128 := by
  obtain ⟨small, lower⟩ := digit?_eq_some_iff.mp found
  have atMost : base.radix ≤ 16 := by cases base <;> decide
  have number := congrArg Char.toNat lower
  rw [toNat_toLower, toNat_digitChar (by omega)] at number
  split_ifs at number <;> omega

/-- Exactly the digits of the base are read, each as its place in the alphabet. -/
theorem digit?_eq_ite (base : Base) (c : Char) :
    base.digit? c = if c ∈ base.digits then some (hexDigitValue c) else none := by
  by_cases ascii : c.toNat < 128
  · have same := digit?_eq_of_ascii base ascii
    rwa [Char.ofNat_toNat] at same
  · rw [if_neg fun digit => ascii (toNat_lt_of_mem_digits digit)]
    cases found : base.digit? c with
    | none => rfl
    | some d => exact absurd (toNat_lt_of_digit? found) ascii

theorem exists_read?_iff {base : Base} {cs : List Char} :
    (∃ n, read? base cs = some n) ↔ cs ≠ [] ∧ ∀ c ∈ cs, c ∈ base.digits := by
  constructor
  · rintro ⟨n, reads⟩
    constructor
    · rintro rfl
      cases reads
    · intro c inside
      by_contra bad
      have spoiled : read? base cs = none :=
        read?_eq_none inside (by rw [digit?_eq_ite, if_neg bad])
      rw [spoiled] at reads
      cases reads
  · rintro ⟨nonempty, digits⟩
    -- The last digit is taken off, so that each digit multiplies what stands before it.
    induction cs using List.reverseRecOn with
    | nil => exact absurd rfl nonempty
    | append_singleton cs last ih =>
        rw [List.forall_mem_append, List.forall_mem_singleton] at digits
        have value : base.digit? last = some (hexDigitValue last) := by
          rw [digit?_eq_ite, if_pos digits.2]
        by_cases single : cs = []
        · rw [single, List.nil_append]
          exact ⟨_, (read?_singleton base last).trans value⟩
        · obtain ⟨n, reads⟩ := ih single digits.1
          rw [read?_concat base single, reads, value]
          exact ⟨_, rfl⟩

theorem eq_of_read?_concat {base : Base} {cs : List Char} {last : Char} {n m : ℕ}
    (front : read? base cs = some n) (whole : read? base (cs ++ [last]) = some m) :
    m = base.radix * n + hexDigitValue last := by
  have nonempty : cs ≠ [] := by
    rintro rfl
    cases front
  have digit : last ∈ base.digits :=
    (exists_read?_iff.mp ⟨m, whole⟩).2 last
      (List.mem_append_right cs (List.mem_singleton_self last))
  rw [read?_concat base nonempty, front, digit?_eq_ite, if_pos digit] at whole
  exact (Option.some.inj whole).symm

/-- The reader of a base that says why it reads nothing. -/
def readStrictly : Base → String → Except ParseError ℕ
  | .ten => readDecimal
  | .sixteen => readHex

/-- A nonempty run of digits of the base, in base ten within the limit. -/
structure Readable (base : Base) (s : String) : Prop where
  nonempty : s ≠ ""
  digits : ∀ c ∈ s.toList, c ∈ base.digits
  short : base = .ten → s.length ≤ maxDecimalDigits

/-- The tolerant reader keeps the number of the strict one and forgets the cause. -/
theorem tryRead_eq_toOption (base : Base) (s : String) :
    tryRead base s = (readStrictly base s).toOption := by
  cases base with
  | ten => exact tryRead_ten s
  | sixteen =>
      rw [tryRead, withinLimit, if_pos rfl, readStrictly, readHex]
      cases read? .sixteen s.toList <;> rfl

theorem tryRead_eq_some_iff {base : Base} {s : String} {n : ℕ} :
    tryRead base s = some n ↔ readStrictly base s = .ok n := by
  rw [tryRead_eq_toOption]
  cases readStrictly base s <;> simp [Except.toOption]

theorem tryRead_eq_none_iff {base : Base} {s : String} :
    tryRead base s = none ↔ ∃ cause, readStrictly base s = .error cause := by
  rw [tryRead_eq_toOption]
  cases readStrictly base s <;> simp [Except.toOption]

theorem readStrictly_eq_ok_iff {base : Base} {s : String} {n : ℕ} :
    readStrictly base s = .ok n ↔
      withinLimit base s.length = true ∧ read? base s.toList = some n := by
  rw [← tryRead_eq_some_iff, tryRead, Option.ite_none_right_eq_some]

theorem withinLimit_iff {base : Base} {length : ℕ} :
    withinLimit base length = true ↔ (base = .ten → length ≤ maxDecimalDigits) := by
  cases base <;> simp [withinLimit]

theorem exists_readStrictly_iff {base : Base} {s : String} :
    (∃ n, readStrictly base s = .ok n) ↔ Readable base s := by
  simp only [readStrictly_eq_ok_iff, exists_and_left, exists_read?_iff, withinLimit_iff, ne_eq,
    String.toList_eq_nil_iff]
  constructor
  · rintro ⟨short, nonempty, digits⟩
    exact ⟨nonempty, digits, short⟩
  · rintro ⟨nonempty, digits, short⟩
    exact ⟨short, nonempty, digits⟩

theorem cause_of_readStrictly {base : Base} {s : String} {cause : ParseError}
    (refused : readStrictly base s = .error cause) : cause.text = s ∧ cause.base = base := by
  cases base with
  | ten =>
      rw [readStrictly, readDecimal] at refused
      split at refused
      · cases refused
        exact ⟨rfl, rfl⟩
      · split at refused
        · cases refused
        · cases refused
          exact ⟨rfl, rfl⟩
  | sixteen =>
      rw [readStrictly, readHex] at refused
      split at refused
      · cases refused
        exact ⟨rfl, rfl⟩
      · cases refused

theorem tryRead_of_not_readable {base : Base} {s : String} (unreadable : ¬ Readable base s) :
    tryRead base s = none := by
  cases found : tryRead base s with
  | none => rfl
  | some n => exact absurd (exists_readStrictly_iff.mp ⟨n, tryRead_eq_some_iff.mp found⟩) unreadable

/-- What looser readers let pass: signs, separators, the letter of a mark, white space, and whatever
is not ASCII, digits of other scripts among it. -/
def LooselyRead (c : Char) : Prop :=
  c ∈ "+-_xX".toList ∨ Blank.isBlank c = true ∨ 128 ≤ c.toNat

instance (c : Char) : Decidable (LooselyRead c) := inferInstanceAs (Decidable (_ ∨ _))

theorem not_mem_digits_of_looselyRead {base : Base} {c : Char} (loose : LooselyRead c) :
    c ∉ base.digits := by
  have strict : base.digits.all (¬ LooselyRead ·) = true := by cases base <;> decide
  exact fun digit => List.all_iff_forall_prop.mp strict c digit loose

theorem not_readable_of_looselyRead {base : Base} {s : String} {c : Char} (inside : c ∈ s.toList)
    (loose : LooselyRead c) : ¬ Readable base s :=
  fun readable => not_mem_digits_of_looselyRead loose (readable.digits c inside)

theorem readStrictly_singleton {base : Base} {c : Char} (digit : c ∈ base.digits) :
    readStrictly base (String.singleton c) = .ok (hexDigitValue c) := by
  rw [readStrictly_eq_ok_iff]
  constructor
  · rw [withinLimit_iff]
    intro _
    rw [String.length_singleton]
    decide
  · rw [String.toList_singleton, read?_singleton, digit?_eq_ite, if_pos digit]

theorem eq_of_readStrictly_push {base : Base} {s : String} {c : Char} {n m : ℕ}
    (front : readStrictly base s = .ok n) (whole : readStrictly base (s.push c) = .ok m) :
    m = base.radix * n + hexDigitValue c := by
  have digits := (readStrictly_eq_ok_iff.mp whole).2
  rw [String.toList_push] at digits
  exact eq_of_read?_concat (readStrictly_eq_ok_iff.mp front).2 digits

/-- In either base the two readers find the same number in a text or both find none, and they find
one exactly in the nonempty runs of digits, in base ten within the limit. A digit alone is its place
in the alphabet, and one more digit multiplies the number before it by the base. -/
theorem readers_agree_on_digits (base : Base) :
    Base.ofRadix base.radix = .ok base ∧
    (∀ s n, tryRead base s = some n ↔ readStrictly base s = .ok n) ∧
    (∀ s, tryRead base s = none ↔ ∃ cause, readStrictly base s = .error cause) ∧
    (∀ s cause, readStrictly base s = .error cause → cause.text = s ∧ cause.base = base) ∧
    (∀ s, (∃ n, tryRead base s = some n) ↔ Readable base s) ∧
    (∀ s, (∃ n, readStrictly base s = .ok n) ↔ Readable base s) ∧
    (∀ s, ∀ c ∈ s.toList, LooselyRead c →
      tryRead base s = none ∧ ∃ cause, readStrictly base s = .error cause) ∧
    (∀ c ∈ base.digits, readStrictly base (String.singleton c) = .ok (hexDigitValue c)) ∧
    ∀ s c n m, readStrictly base s = .ok n → readStrictly base (s.push c) = .ok m →
      m = base.radix * n + hexDigitValue c := by
  refine ⟨?_, fun s n => tryRead_eq_some_iff, fun s => tryRead_eq_none_iff,
    fun s cause => cause_of_readStrictly, ?_, fun s => exists_readStrictly_iff, ?_,
    fun c => readStrictly_singleton, fun s c n m => eq_of_readStrictly_push⟩
  · cases base <;> rfl
  · intro s
    simp only [tryRead_eq_some_iff]
    exact exists_readStrictly_iff
  · intro s c inside loose
    have nothing : tryRead base s = none :=
      tryRead_of_not_readable (not_readable_of_looselyRead inside loose)
    exact ⟨nothing, tryRead_eq_none_iff.mp nothing⟩

/-- A newline behind the digits is not skipped, and digits of base sixteen count in either case. -/
theorem readers_agree_on_digits_of_newline_and_letters :
    (tryRead .ten "12\n" = none ∧ ∃ cause, readStrictly .ten "12\n" = .error cause) ∧
      (readStrictly .ten "1_0" = .error ⟨"1_0", .ten, .malformed⟩ ∧
        (⟨"1_0", .ten, .malformed⟩ : ParseError).text = "1_0") ∧
      readStrictly .sixteen (String.singleton 'F') = .ok 15 ∧
      readStrictly .sixteen "0f" = .ok 15 ∧ readStrictly .sixteen ("0f".push 'F') = .ok 255 ∧
      255 = Base.sixteen.radix * 15 + hexDigitValue 'F' := by
  obtain ⟨-, -, -, causes, -, -, loose, -, -⟩ := readers_agree_on_digits .ten
  obtain ⟨-, -, -, -, -, -, -, digits, further⟩ := readers_agree_on_digits .sixteen
  have separated : readStrictly .ten "1_0" = .error ⟨"1_0", .ten, .malformed⟩ := by decide
  have front : readStrictly .sixteen "0f" = .ok 15 := by decide
  have whole : readStrictly .sixteen ("0f".push 'F') = .ok 255 := by decide
  exact ⟨loose "12\n" '\n' (by decide) (by decide), ⟨separated, (causes _ _ separated).1⟩,
    digits 'F' (by decide), front, whole, further _ _ _ _ front whole⟩

end Numeral

end WalletKit
