import WalletKit.Proofs.Amount.Settings

set_option autoImplicit false

namespace WalletKit.Amount

open Numeral

/-- Behind at most one mark stand digits of base sixteen, at least one, and their value is `n`. -/
structure HexDenotes (s : String) (n : ℕ) : Prop where
  readable : ReadableHex s
  value : hexNumber (behindMark s) = n

instance (s : String) (n : ℕ) : Decidable (HexDenotes s n) :=
  decidable_of_iff (ReadableHex s ∧ hexNumber (behindMark s) = n)
    ⟨fun both => ⟨both.1, both.2⟩, fun denotes => ⟨denotes.readable, denotes.value⟩⟩

theorem HexDenotes.unique {s : String} {m n : ℕ} (first : HexDenotes s m)
    (second : HexDenotes s n) : m = n :=
  first.value.symm.trans second.value

theorem exists_hexDenotes_iff {s : String} : (∃ n, HexDenotes s n) ↔ ReadableHex s := by
  constructor
  · rintro ⟨n, denotes⟩
    exact denotes.readable
  · intro readable
    exact ⟨_, readable, rfl⟩

theorem hexDenotes_hex (n : ℕ) : HexDenotes (hex n) n := by
  constructor
  · rw [ReadableHex, behindMark_hex]
    exact ⟨Nat.toDigits_ne_nil, fun d inside => isHexDigit_toDigits inside⟩
  · rw [behindMark_hex, hexNumber_toDigits]

theorem multiplyHex_of_readable {a b : String} (left : ReadableHex a) (right : ReadableHex b) :
    multiplyHex a b = .ok (hex (hexNumber (behindMark a) * hexNumber (behindMark b))) := by
  rw [multiplyHex, readHex_of_readable left, readHex_of_readable right]
  rfl

theorem multiplyHex_of_denotes {a b : String} {m n : ℕ} (left : HexDenotes a m)
    (right : HexDenotes b n) : multiplyHex a b = .ok (hex (m * n)) := by
  rw [multiplyHex_of_readable left.readable right.readable, left.value, right.value]

/-- The operand that is refused: the left one, if it denotes nothing, and else the right one. -/
inductive Refuses (a b : String) : String → Prop where
  | left (nothing : ¬ ∃ m, HexDenotes a m) : Refuses a b a
  | right (something : ∃ m, HexDenotes a m) (nothing : ¬ ∃ n, HexDenotes b n) : Refuses a b b

/-- The refusal of a text quotes what stands behind the mark. -/
def refusal (s : String) : Error :=
  .unreadable ⟨String.ofList (behindMark s), .sixteen, .malformed⟩

theorem readHex_eq_refusal {s : String} (nothing : ¬ ∃ n, HexDenotes s n) :
    readHex (dropHexMark s) = .error (refusal s) := by
  rw [exists_hexDenotes_iff] at nothing
  rw [readHex_of_not_readable nothing, refusal, ← toList_dropHexMark, String.ofList_toList]

theorem multiplyHex_of_refuses {a b s : String} (refuses : Refuses a b s) :
    multiplyHex a b = .error (refusal s) := by
  rw [multiplyHex]
  cases refuses with
  | left nothing =>
      rw [readHex_eq_refusal nothing]
      rfl
  | right something nothing =>
      rw [readHex_of_readable (exists_hexDenotes_iff.mp something), readHex_eq_refusal nothing]
      rfl

theorem denotes_or_refuses (a b : String) :
    (∃ m n, HexDenotes a m ∧ HexDenotes b n) ∨ ∃ s, Refuses a b s := by
  by_cases left : ∃ m, HexDenotes a m
  · by_cases right : ∃ n, HexDenotes b n
    · obtain ⟨m, left⟩ := left
      obtain ⟨n, right⟩ := right
      exact Or.inl ⟨m, n, left, right⟩
    · exact Or.inr ⟨b, .right left right⟩
  · exact Or.inr ⟨a, .left left⟩

theorem multiplyHex_eq_ok_iff {a b r : String} :
    multiplyHex a b = .ok r ↔ ∃ m n, HexDenotes a m ∧ HexDenotes b n ∧ r = hex (m * n) := by
  constructor
  · intro multiplied
    rcases denotes_or_refuses a b with ⟨m, n, left, right⟩ | ⟨s, refuses⟩
    · rw [multiplyHex_of_denotes left right] at multiplied
      exact ⟨m, n, left, right, (Except.ok.inj multiplied).symm⟩
    · rw [multiplyHex_of_refuses refuses] at multiplied
      cases multiplied
  · rintro ⟨m, n, left, right, rfl⟩
    exact multiplyHex_of_denotes left right

theorem multiplyHex_eq_error_iff {a b : String} {failure : Error} :
    multiplyHex a b = .error failure ↔ ∃ s, Refuses a b s ∧ failure = refusal s := by
  constructor
  · intro failed
    rcases denotes_or_refuses a b with ⟨m, n, left, right⟩ | ⟨s, refuses⟩
    · rw [multiplyHex_of_denotes left right] at failed
      cases failed
    · rw [multiplyHex_of_refuses refuses] at failed
      exact ⟨s, refuses, (Except.error.inj failed).symm⟩
  · rintro ⟨s, refuses, rfl⟩
    exact multiplyHex_of_refuses refuses

theorem multiplyHex_comm_ok {a b r : String} (multiplied : multiplyHex a b = .ok r) :
    multiplyHex b a = .ok r := by
  obtain ⟨m, n, left, right, rfl⟩ := multiplyHex_eq_ok_iff.mp multiplied
  rw [multiplyHex_of_denotes right left, Nat.mul_comm]

/-- Three numbers are multiplied from the left if all three are denoted. -/
theorem multiplyHex_left_eq_ok_iff {a b c r : String} :
    (multiplyHex a b >>= fun ab => multiplyHex ab c) = .ok r ↔
      ∃ l m n, HexDenotes a l ∧ HexDenotes b m ∧ HexDenotes c n ∧ r = hex (l * m * n) := by
  constructor
  · intro multiplied
    cases first : multiplyHex a b with
    | error failure =>
        rw [first] at multiplied
        cases multiplied
    | ok ab =>
        rw [first] at multiplied
        obtain ⟨l, m, left, middle, rfl⟩ := multiplyHex_eq_ok_iff.mp first
        obtain ⟨k, n, product, right, rfl⟩ := multiplyHex_eq_ok_iff.mp multiplied
        rw [product.unique (hexDenotes_hex (l * m))]
        exact ⟨l, m, n, left, middle, right, rfl⟩
  · rintro ⟨l, m, n, left, middle, right, rfl⟩
    rw [multiplyHex_of_denotes left middle]
    exact multiplyHex_of_denotes (hexDenotes_hex (l * m)) right

theorem multiplyHex_right_eq_ok_iff {a b c r : String} :
    (multiplyHex b c >>= fun bc => multiplyHex a bc) = .ok r ↔
      ∃ l m n, HexDenotes a l ∧ HexDenotes b m ∧ HexDenotes c n ∧ r = hex (l * m * n) := by
  have swapped : (multiplyHex b c >>= fun bc => multiplyHex a bc) = .ok r ↔
      (multiplyHex b c >>= fun bc => multiplyHex bc a) = .ok r := by
    cases multiplyHex b c with
    | error failure => rfl
    | ok bc => exact ⟨multiplyHex_comm_ok, multiplyHex_comm_ok⟩
  rw [swapped, multiplyHex_left_eq_ok_iff]
  constructor
  · rintro ⟨m, n, l, middle, right, left, rfl⟩
    exact ⟨l, m, n, left, middle, right, by rw [Nat.mul_comm, Nat.mul_assoc]⟩
  · rintro ⟨l, m, n, left, middle, right, rfl⟩
    exact ⟨m, n, l, middle, right, left, by rw [Nat.mul_assoc, Nat.mul_comm]⟩

theorem hexOfDecimal_of_readable {s : String} (readable : ReadableWhole s.toList) :
    hexOfDecimal s = .ok (hex (Nat.ofDigitChars 10 s.toList 0)) := by
  rw [hexOfDecimal, if_neg readable.ne_empty, readDecimal_of_readable readable]
  rfl

/-- Texts that denote numbers in base sixteen multiply as these numbers do, whatever their spelling:
the product is the numeral of the product, the order and the grouping of the factors do not matter,
and one times a text is its numeral. Nothing else is multiplied, and the first text that denotes
nothing is the one that is refused. -/
theorem hex_numerals_multiply :
    (∀ a b r, multiplyHex a b = .ok r ↔
      ∃ m n, HexDenotes a m ∧ HexDenotes b n ∧ r = hex (m * n)) ∧
    (∀ a b r, multiplyHex a b = .ok r ∨ multiplyHex b a = .ok r →
      multiplyHex a b = multiplyHex b a) ∧
    (∀ a b c r, (multiplyHex a b >>= fun ab => multiplyHex ab c) = .ok r ↔
      (multiplyHex b c >>= fun bc => multiplyHex a bc) = .ok r) ∧
    (∀ a n, HexDenotes a n → multiplyHex "0x1" a = .ok (hex n)) ∧
    (∀ x y : String, ReadableWhole x.toList → ReadableWhole y.toList →
      (hexOfDecimal x >>= fun hx => hexOfDecimal y >>= fun hy => multiplyHex hx hy) =
        .ok (hex (Nat.ofDigitChars 10 x.toList 0 * Nat.ofDigitChars 10 y.toList 0))) ∧
    ∀ a b failure, multiplyHex a b = .error failure ↔
      ∃ s, Refuses a b s ∧
        failure = .unreadable ⟨String.ofList (behindMark s), .sixteen, .malformed⟩ := by
  refine ⟨fun a b r => multiplyHex_eq_ok_iff, ?_, ?_, ?_, ?_,
    fun a b failure => multiplyHex_eq_error_iff⟩
  · intro a b r multiplied
    rcases multiplied with forwards | backwards
    · rw [forwards, multiplyHex_comm_ok forwards]
    · rw [backwards, multiplyHex_comm_ok backwards]
  · intro a b c r
    rw [multiplyHex_left_eq_ok_iff, multiplyHex_right_eq_ok_iff]
  · intro a n denotes
    have one : HexDenotes "0x1" 1 := hexDenotes_hex 1
    rw [multiplyHex_of_denotes one denotes, Nat.one_mul]
  · intro x y first second
    rw [hexOfDecimal_of_readable first, hexOfDecimal_of_readable second]
    exact multiplyHex_of_denotes (hexDenotes_hex _) (hexDenotes_hex _)

/-- Zeros in front, letters of both cases and a missing mark make no difference to the product of
255 and 2, and an empty operand is refused although the other one is unreadable as well. -/
theorem hex_numerals_multiply_two_spellings :
    multiplyHex "0x00fF" "2" = .ok (hex 510) ∧ multiplyHex "2" "0x00fF" = .ok (hex 510) ∧
      multiplyHex "0x1" "00fF" = .ok (hex 255) ∧
      (hexOfDecimal "0255" >>= fun hx => hexOfDecimal "2" >>= fun hy => multiplyHex hx hy) =
        .ok (hex 510) ∧
      multiplyHex "0x" "0xg" = .error (.unreadable ⟨"", .sixteen, .malformed⟩) := by
  obtain ⟨product, commutes, -, one, decimals, refused⟩ := hex_numerals_multiply
  have marked : HexDenotes "0x00fF" 255 := by decide
  have bare : HexDenotes "00fF" 255 := by decide
  have two : HexDenotes "2" 2 := by decide
  have multiplied := (product "0x00fF" "2" _).mpr ⟨255, 2, marked, two, rfl⟩
  refine ⟨multiplied, ?_, one _ _ bare, ?_, ?_⟩
  · rw [← commutes _ _ _ (Or.inl multiplied), multiplied]
  · exact decimals "0255" "2" (by decide) (by decide)
  · refine (refused _ _ _).mpr ⟨"0x", .left ?_, rfl⟩
    rw [exists_hexDenotes_iff]
    decide

end WalletKit.Amount
