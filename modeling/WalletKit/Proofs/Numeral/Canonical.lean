import WalletKit.Proofs.Numeral.Hexadecimal

set_option autoImplicit false

namespace WalletKit.Numeral

theorem digit?_ten (c : Char) :
    Base.ten.digit? c = if 48 ≤ c.toNat ∧ c.toNat ≤ 57 then some (c.toNat - 48) else none := by
  rw [Base.digit?_ten]
  simp only [Char.isDigit_iff_toNat]
  rfl

theorem toNat_digitChar {d : ℕ} (small : d < 16) :
    d.digitChar.toNat = if d < 10 then 48 + d else 87 + d :=
  (by decide : ∀ d < 16, d.digitChar.toNat = if d < 10 then 48 + d else 87 + d) d small

theorem toLower_eq_digitChar_iff {c : Char} {d : ℕ} (small : d < 16) :
    c.toLower = d.digitChar ↔
      if d < 10 then c.toNat = 48 + d else c.toNat = 87 + d ∨ c.toNat = 55 + d := by
  rw [← Char.toNat_inj, toNat_toLower, toNat_digitChar small]
  split_ifs <;> omega

/-- In lowercase a digit is the character that its value is written with. -/
theorem digit?_eq_some_iff {base : Base} {c : Char} {d : ℕ} :
    base.digit? c = some d ↔ d < base.radix ∧ c.toLower = d.digitChar := by
  have atMost : base.radix ≤ 16 := by cases base <;> decide
  have spelled : (d < base.radix ∧ c.toLower = d.digitChar) ↔ d < base.radix ∧
      if d < 10 then c.toNat = 48 + d else c.toNat = 87 + d ∨ c.toNat = 55 + d :=
    and_congr_right fun small => toLower_eq_digitChar_iff (by omega)
  rw [spelled]
  cases base with
  | ten =>
      rw [digit?_ten, show Base.ten.radix = 10 from rfl]
      grind
  | sixteen =>
      rw [digit?_sixteen, show Base.sixteen.radix = 16 from rfl]
      grind

theorem toLower_of_isDigit {c : Char} (digit : c.isDigit) : c.toLower = c := by
  have bounds := Char.isDigit_iff_toNat.mp digit
  have zero : '0'.toNat = 48 := rfl
  have nine : '9'.toNat = 57 := rfl
  apply Char.toNat_inj.mp
  rw [toNat_toLower, if_neg (by omega)]

theorem values_of_mapM {base : Base} {cs : List Char} {values : List ℕ}
    (found : cs.mapM base.digit? = some values) :
    cs.map Char.toLower = values.map Nat.digitChar ∧ ∀ d ∈ values, d < base.radix := by
  induction cs generalizing values with
  | nil =>
      cases found
      exact ⟨rfl, List.forall_mem_nil _⟩
  | cons c cs ih =>
      rw [List.mapM_cons] at found
      obtain ⟨d, digit, rest⟩ := Option.bind_eq_some_iff.mp found
      obtain ⟨more, later, same⟩ := Option.bind_eq_some_iff.mp rest
      cases same
      obtain ⟨small, lower⟩ := digit?_eq_some_iff.mp digit
      obtain ⟨spelled, bounded⟩ := ih later
      rw [List.map_cons, List.map_cons, lower, spelled]
      exact ⟨rfl, List.forall_mem_cons.mpr ⟨small, bounded⟩⟩

/-- A run of digits is, in lowercase, the numeral of its number behind superfluous zeros. -/
theorem spelled_of_read? {base : Base} {cs : List Char} {n : ℕ} (reads : read? base cs = some n) :
    ∃ zeros, cs.map Char.toLower = List.replicate zeros '0' ++ Nat.toDigits base.radix n := by
  cases cs with
  | nil => cases reads
  | cons c cs =>
      obtain ⟨values, found, rfl⟩ := Option.map_eq_some_iff.mp reads
      obtain ⟨spelled, small⟩ := values_of_mapM found
      rw [spelled]
      apply Digits.map_digitChar_eq base.one_lt_radix _ small
      rintro rfl
      cases spelled

/-- Digits of which the first is a zero only if it is the only one. -/
structure Canonical (digits : List Char) : Prop where
  nonempty : digits ≠ []
  alone : digits.head? = some '0' → digits = ['0']

/-- What is left of a run of digits without its superfluous zeros in front. -/
structure Shortened (run digits : List Char) : Prop where
  canonical : Canonical digits
  zeros : ∃ count, run = List.replicate count '0' ++ digits

theorem head?_toDigits_eq_zero_iff {radix : ℕ} (large : 1 < radix) (n : ℕ) :
    (Nat.toDigits radix n).head? = some '0' ↔ n = 0 := by
  constructor
  · intro zero
    by_contra nonzero
    exact Digits.head?_toDigits large (Nat.pos_of_ne_zero nonzero) zero
  · rintro rfl
    rw [Nat.toDigits_zero]
    rfl

theorem canonical_toDigits {radix : ℕ} (large : 1 < radix) (n : ℕ) :
    Canonical (Nat.toDigits radix n) := by
  refine ⟨Nat.toDigits_ne_nil, fun zero => ?_⟩
  rw [(head?_toDigits_eq_zero_iff large n).mp zero, Nat.toDigits_zero]

theorem shortened_of_read? {base : Base} {cs : List Char} {n : ℕ}
    (reads : read? base cs = some n) :
    Shortened (cs.map Char.toLower) (Nat.toDigits base.radix n) :=
  ⟨canonical_toDigits base.one_lt_radix n, spelled_of_read? reads⟩

theorem readHex_eq_ok_iff {s : String} {n : ℕ} :
    readHex s = .ok n ↔ read? .sixteen s.toList = some n := by
  unfold readHex
  cases read? .sixteen s.toList <;> simp

theorem read?_of_readDecimal {s : String} {n : ℕ} (reads : readDecimal s = .ok n) :
    read? .ten s.toList = some n := by
  unfold readDecimal at reads
  cases found : read? .ten s.toList with
  | none =>
      rw [found] at reads
      cases reads
  | some m =>
      rw [found] at reads
      dsimp only at reads
      split at reads
      · rw [Except.ok.inj reads]
      · cases reads

theorem isDigit_of_read? {cs : List Char} {n : ℕ} (reads : read? .ten cs = some n) :
    ∀ c ∈ cs, c.isDigit := by
  intro c inside
  by_contra bad
  rw [read?_ten_eq_none (Or.inr ⟨c, inside, bad⟩)] at reads
  cases reads

theorem signedHex_natCast (n : ℕ) : signedHex n = .ok (hex n) :=
  if_neg (Int.not_lt.mpr (Int.natCast_nonneg n))

theorem signedDecimal_natCast (n : ℕ) : signedDecimal n = decimal n :=
  if_neg (Int.not_lt.mpr (Int.natCast_nonneg n))

theorem readHex_dropHexMark_hex (n : ℕ) : readHex (dropHexMark (hex n)) = .ok n := by
  rw [readHex_eq_ok_iff, toList_dropHexMark, behindMark_hex]
  exact read?_toDigits .sixteen n

section Negative

variable {v : ℤ} (negative : v < 0)

include negative

theorem signedDecimal_of_neg : signedDecimal v = "-" ++ signedDecimal (-v) := by
  have positive : ¬ -v < 0 := by omega
  rw [signedDecimal, if_pos negative, signedDecimal, if_neg positive, Int.natAbs_neg, decimal,
    ← String.toList_inj, String.toList_append]
  simp only [String.toList_ofList]
  rfl

theorem message_of_neg :
    NegativeAmount.message ⟨v⟩ =
      if -v < 10 ^ maxDecimalDigits then "Amount cannot be negative: " ++ signedDecimal v
      else "Exceeds the limit (4300 digits) for integer string conversion; " ++
        "use sys.set_int_max_str_digits() to increase the limit" := by
  have short : (Nat.toDigits 10 v.natAbs).length ≤ maxDecimalDigits ↔
      -v < 10 ^ maxDecimalDigits := by
    rw [Digits.length_toDigits_le_iff (by decide)]
    zify
    rw [abs_of_neg negative]
  simp only [NegativeAmount.message, short]

end Negative

/-- Every natural number is written in both bases without superfluous zeros and read again, in base
ten if it is below the limit, and every text that is read is written again without the superfluous
zeros it had. Negative numbers have a minus sign in base ten and are refused in base sixteen. -/
theorem numerals_read_and_written :
    (∀ n : ℕ, ∃ digits, signedHex n = .ok (String.ofList ('0' :: 'x' :: digits)) ∧
      Canonical digits ∧ (digits.head? = some '0' ↔ n = 0) ∧ (∀ c ∈ digits, c ∈ hexAlphabet) ∧
      readHex (dropHexMark (String.ofList ('0' :: 'x' :: digits))) = .ok n) ∧
    (∀ n : ℕ, ∃ digits, signedDecimal n = String.ofList digits ∧
      Canonical digits ∧ (digits.head? = some '0' ↔ n = 0) ∧ (∀ c ∈ digits, c.isDigit) ∧
      (n < 10 ^ maxDecimalDigits → readDecimal (signedDecimal n) = .ok n) ∧
      (10 ^ maxDecimalDigits ≤ n → ∃ cause : ParseError, cause.text = signedDecimal n ∧
        cause.base = .ten ∧ cause.reason.text = "too many digits" ∧
        readDecimal (signedDecimal n) = .error cause)) ∧
    (∀ v : ℤ, v < 0 → signedDecimal v = "-" ++ signedDecimal (-v) ∧
      ∃ failure, signedHex v = .error failure ∧ failure.message =
        if -v < 10 ^ maxDecimalDigits then "Amount cannot be negative: " ++ signedDecimal v
        else "Exceeds the limit (4300 digits) for integer string conversion; " ++
          "use sys.set_int_max_str_digits() to increase the limit") ∧
    (∀ (s : String) (n : ℕ), readHex s = .ok n →
      ∃ digits, Shortened (s.toList.map Char.toLower) digits ∧
        signedHex n = .ok (String.ofList ('0' :: 'x' :: digits))) ∧
    ∀ (s : String) (n : ℕ), readDecimal s = .ok n →
      ∃ digits, Shortened s.toList digits ∧ signedDecimal n = String.ofList digits := by
  refine ⟨?_, ?_, ?_, ?_, ?_⟩
  · intro n
    exact ⟨Nat.toDigits 16 n, signedHex_natCast n, canonical_toDigits (by decide) n,
      head?_toDigits_eq_zero_iff (by decide) n, fun c => mem_hexAlphabet_of_mem_toDigits,
      readHex_dropHexMark_hex n⟩
  · intro n
    refine ⟨Nat.toDigits 10 n, signedDecimal_natCast n, canonical_toDigits (by decide) n,
      head?_toDigits_eq_zero_iff (by decide) n, fun c => Digits.isDigit_toDigits, ?_, ?_⟩
    · intro short
      rw [signedDecimal_natCast, readDecimal_decimal, if_pos short]
    · intro long
      rw [signedDecimal_natCast, readDecimal_decimal, if_neg (Nat.not_lt.mpr long)]
      exact ⟨_, rfl, rfl, rfl, rfl⟩
  · intro v negative
    exact ⟨signedDecimal_of_neg negative, ⟨v⟩, if_pos negative, message_of_neg negative⟩
  · intro s n reads
    exact ⟨Nat.toDigits 16 n, shortened_of_read? (readHex_eq_ok_iff.mp reads),
      signedHex_natCast n⟩
  · intro s n reads
    have digits := read?_of_readDecimal reads
    -- The numeral is that of the lowercase text, which in base ten is the text itself.
    have lower : s.toList.map Char.toLower = s.toList := by
      conv_rhs => rw [← List.map_id s.toList]
      exact List.map_congr_left fun c inside =>
        toLower_of_isDigit (isDigit_of_read? digits c inside)
    have shortened := shortened_of_read? digits
    rw [lower] at shortened
    exact ⟨Nat.toDigits 10 n, shortened, signedDecimal_natCast n⟩

/-- The last number below the limit is read again and the next one is not; zeros in front are lost,
and letters are written in lowercase. -/
theorem numerals_read_and_written_at_the_limit :
    readDecimal (signedDecimal ((10 ^ maxDecimalDigits - 1 : ℕ) : ℤ)) =
        .ok (10 ^ maxDecimalDigits - 1) ∧
      (∃ cause : ParseError, cause.reason.text = "too many digits" ∧
        readDecimal (signedDecimal ((10 ^ maxDecimalDigits : ℕ) : ℤ)) = .error cause) ∧
      signedDecimal (-30) = "-" ++ signedDecimal 30 ∧
      (readHex "00fF" = .ok 255 ∧ ∃ digits, Shortened ['0', '0', 'f', 'f'] digits ∧
        signedHex 255 = .ok (String.ofList ('0' :: 'x' :: digits))) ∧
      (readDecimal "000" = .ok 0 ∧ ∃ digits, Shortened ['0', '0', '0'] digits ∧
        signedDecimal 0 = String.ofList digits) := by
  obtain ⟨-, decimals, negatives, hexRewritten, decimalRewritten⟩ := numerals_read_and_written
  have marked : readHex "00fF" = .ok 255 := by decide
  have zeros : readDecimal "000" = .ok 0 := by decide
  refine ⟨?_, ?_, (negatives (-30) (by decide)).1, ⟨marked, hexRewritten "00fF" 255 marked⟩,
    zeros, decimalRewritten "000" 0 zeros⟩
  · obtain ⟨-, -, -, -, -, short, -⟩ := decimals (10 ^ maxDecimalDigits - 1)
    exact short (Nat.sub_lt (Nat.pow_pos (by decide)) Nat.one_pos)
  · obtain ⟨-, -, -, -, -, -, long⟩ := decimals (10 ^ maxDecimalDigits)
    obtain ⟨cause, -, -, reason, refused⟩ := long (Nat.le_refl _)
    exact ⟨cause, reason, refused⟩

end WalletKit.Numeral
