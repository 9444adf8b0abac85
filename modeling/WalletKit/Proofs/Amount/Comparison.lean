import WalletKit.Proofs.Amount.Settings
import WalletKit.Proofs.Decimal.Ordering
import WalletKit.Proofs.Decimal.Rescaling

set_option autoImplicit false

namespace WalletKit

theorem ShownInOrder.mapError {ε δ : Type} {first second : Except ε String} (f : ε → δ)
    (shown : ShownInOrder first second) : ShownInOrder (first.mapError f) (second.mapError f) := by
  obtain ⟨x, rfl⟩ := shown.left
  obtain ⟨y, rfl⟩ := shown.right
  exact .of_le (shown.ordered x y rfl rfl)

namespace Amount.Converter

open Numeral

variable {c : Converter}

/-- The ways in which `n` smallest units are handed in to be shown. Nothing at all is zero. -/
inductive Shows (c : Converter) (n : ℕ) : Except Error String → Prop where
  | hex {h : String} (spelling : HexSpelling n h) : Shows c n (c.tokensOfHexUnits h)
  | decimal {s : String} (readable : ReadableWhole s.toList)
    (number : Nat.ofDigitChars 10 s.toList 0 = n) : Shows c n (c.tokensOfDecimalUnits (some s))
  | empty (zero : n = 0) : Shows c n (c.tokensOfDecimalUnits (some ""))
  | missing (zero : n = 0) : Shows c n (c.tokensOfDecimalUnits none)

theorem tokensOfDecimalUnits_of_readable {s : String} (readable : ReadableWhole s.toList) :
    c.tokensOfDecimalUnits (some s) = c.tokensOfUnits (Nat.ofDigitChars 10 s.toList 0) := by
  unfold tokensOfDecimalUnits
  dsimp only
  rw [if_neg readable.ne_empty, readDecimal_of_readable readable]
  rfl

/-- Every way in leads to the same division, or to an answer that it would have given. -/
theorem Shows.eq_tokensOfUnits {n : ℕ} {answer : Except Error String}
    (precise : c.precision ≤ Decimal.maxPrecision) (given : c.Shows n answer) :
    answer = c.tokensOfUnits n := by
  cases given with
  | hex spelling => exact tokensOfHexUnits_of_hexSpelling precise spelling
  | decimal readable number => rw [tokensOfDecimalUnits_of_readable readable, number]
  | empty zero | missing zero =>
      rw [zero, tokensOfUnits_zero precise]
      rfl

theorem shownInOrder_tokensOfUnits (precise : c.precision ≤ Decimal.maxPrecision) {m n : ℕ}
    (ordered : m ≤ n) (first : c.Divides m) (second : c.Divides n) :
    ShownInOrder (c.tokensOfUnits m) (c.tokensOfUnits n) := by
  have cast : (m : ℤ) ≤ n := by exact_mod_cast ordered
  apply ShownInOrder.mapError
  apply Decimal.shownInOrder_divide cast c.precision_pos precise
  · exact Decimal.inRange_natCast_iff.mpr first
  · exact Decimal.inRange_natCast_iff.mpr second

/-- A token of more decimals has its smallest units scaled up by the decimals that are added. -/
theorem tokensOfUnits_rescaled {c₁ c₂ : Converter} (samePrecision : c₁.precision = c₂.precision)
    (finer : c₁.decimals ≤ c₂.decimals) (n : ℕ) :
    c₂.tokensOfUnits (n * 10 ^ (c₂.decimals - c₁.decimals)) = c₁.tokensOfUnits n := by
  have same := Decimal.divide_mul_pow n c₁.decimals (c₂.decimals - c₁.decimals) c₁.precision
  rw [Nat.add_sub_cancel' finer, samePrecision] at same
  rw [tokensOfUnits, tokensOfUnits, samePrecision, ← same]
  push_cast
  rfl

end Amount.Converter

namespace Amount

open Numeral

/-- Numbers in order are divided by a power of ten into texts of numbers in order, below zero as
well as above; and amounts in order are shown in order, in whichever base each of them is given. -/
theorem shown_in_their_order (precision : ℕ) (several : 1 ≤ precision)
    (precise : precision ≤ Decimal.maxPrecision) :
    (∀ (v w : ℤ) (places : ℕ), v ≤ w → Decimal.InRange precision (v / 10 ^ places) →
      Decimal.InRange precision (w / 10 ^ places) →
      ShownInOrder (Decimal.divide v places precision) (Decimal.divide w places precision)) ∧
    ∀ (c : Converter) (m n : ℕ) (first second : Except Error String),
      c.precision = precision → m ≤ n → c.Divides m → c.Divides n →
      c.Shows m first → c.Shows n second → ShownInOrder first second := by
  constructor
  · intro v w places ordered first second
    exact Decimal.shownInOrder_divide ordered several precise first second
  · intro c m n _ _ samePrecision ordered less more first second
    rw [← samePrecision] at precise
    rw [first.eq_tokensOfUnits precise, second.eq_tokensOfUnits precise]
    exact Converter.shownInOrder_tokensOfUnits precise ordered less more

/-- Of two amounts that one smallest unit parts the greater one is carried to another decade. -/
theorem shown_in_their_order_across_a_decade :
    ShownInOrder (Decimal.divide (-12345675) 8 7) (Decimal.divide (-12345674) 8 7) ∧
    ShownInOrder (({} : Converter).tokensOfDecimalUnits (some "9999999499999999999"))
      (({} : Converter).tokensOfHexUnits (hex 9999999500000000000)) := by
  obtain ⟨divided, shown⟩ := shown_in_their_order 7 (by decide) (by decide)
  have divides : ∀ n ∈ [9999999499999999999, 9999999500000000000],
      ({} : Converter).Divides n := by
    intro n known
    apply Decimal.inRange_natCast_iff.mp
    simp only [List.mem_cons, List.not_mem_nil, or_false] at known
    rcases known with rfl | rfl
    · exact .of_digits (by decide) (by decide) (by decide +kernel) (by decide +kernel)
    · exact .of_digits (by decide) (by decide) (by decide +kernel) (by decide +kernel)
  constructor
  · apply divided _ _ _ (by decide)
    · exact .of_digits (by decide) (by decide) (by decide +kernel) (by decide +kernel)
    · exact .of_digits (by decide) (by decide) (by decide +kernel) (by decide +kernel)
  · refine shown {} 9999999499999999999 9999999500000000000 _ _ rfl (by decide)
      (divides _ (by simp)) (divides _ (by simp)) ?_ (.hex (hexSpelling_hex _))
    exact .decimal (by decide) (by decide)

/-- A division gives one text for all dividends and divisors of one quotient, and the text of the
negative quotient with a minus sign in front. Tokens of different decimals are shown by one text
when they are as many, if the precision is the same. -/
theorem one_text_for_one_quotient (precision : ℕ) (several : 1 ≤ precision)
    (precise : precision ≤ Decimal.maxPrecision) :
    (∀ (v : ℤ) (places k : ℕ), Decimal.InRange precision (v / 10 ^ places) →
      ∃ text, Decimal.divide v places precision = .ok text ∧
        Decimal.divide (v * 10 ^ k) (places + k) precision = .ok text ∧
        (0 < v → Decimal.divide (-v) places precision = .ok ("-" ++ text))) ∧
    ∀ (c₁ c₂ : Converter) (n : ℕ), c₁.precision = precision → c₂.precision = precision →
      c₁.decimals ≤ c₂.decimals → c₁.Divides n →
      ∃ text, c₁.tokensOfHexUnits (hex n) = .ok text ∧
        c₂.tokensOfHexUnits (hex (n * 10 ^ (c₂.decimals - c₁.decimals))) = .ok text := by
  constructor
  · intro v places k range
    have divided := Decimal.divide_of_inRange several precise range
    refine ⟨_, divided, ?_, ?_⟩
    · rw [Decimal.divide_mul_pow, divided]
    · intro positive
      rw [Decimal.divide_neg positive, divided]
      rfl
  · intro c₁ c₂ n first second finer divides
    have precise₁ : c₁.precision ≤ Decimal.maxPrecision := first ▸ precise
    have precise₂ : c₂.precision ≤ Decimal.maxPrecision := second ▸ precise
    have shown := Converter.tokensOfUnits_of_inRange precise₁ divides
    refine ⟨(Decimal.quotient n c₁.decimals c₁.precision).numeral.text, ?_, ?_⟩
    · rw [Converter.tokensOfHexUnits_of_hexSpelling precise₁ (hexSpelling_hex n), shown]
    · rw [Converter.tokensOfHexUnits_of_hexSpelling precise₂ (hexSpelling_hex _),
        Converter.tokensOfUnits_rescaled (first.trans second.symm) finer, shown]

/-- A tie of the last digit that is shown, once with three zeros more behind both numbers; and one
amount in smallest units of six and of eighteen decimals. -/
theorem one_text_for_one_quotient_of_six_and_eighteen_decimals :
    (∃ text, Decimal.divide 12345675 8 7 = .ok text ∧
      Decimal.divide 12345675000 11 7 = .ok text ∧
      Decimal.divide (-12345675) 8 7 = .ok ("-" ++ text)) ∧
    ∃ text, Converter.tokensOfHexUnits ⟨6, 7, by decide⟩ (hex 12345678) = .ok text ∧
      Converter.tokensOfHexUnits ⟨18, 7, by decide⟩ (hex 12345678000000000000) = .ok text := by
  obtain ⟨quotients, shown⟩ := one_text_for_one_quotient 7 (by decide) (by decide)
  have range : Decimal.InRange 7 ((12345675 : ℤ) / 10 ^ 8) :=
    .of_digits (by decide) (by decide) (by decide +kernel) (by decide +kernel)
  have divides : Converter.Divides ⟨6, 7, by decide⟩ 12345678 :=
    Decimal.inRange_natCast_iff.mp
      (.of_digits (by decide) (by decide) (by decide +kernel) (by decide +kernel))
  constructor
  · obtain ⟨text, divided, scaled, negative⟩ := quotients 12345675 8 3 range
    exact ⟨text, divided, scaled, negative (by decide)⟩
  · exact shown ⟨6, 7, by decide⟩ ⟨18, 7, by decide⟩ 12345678 rfl rfl (by decide) divides

end Amount

end WalletKit
