import Mathlib.Tactic.SplitIfs
import WalletKit.Proofs.Numeral.Digits

set_option autoImplicit false

namespace WalletKit.Numeral

theorem toList_ne_nil {s : String} (nonempty : s ≠ "") : s.toList ≠ [] :=
  fun empty => nonempty (String.toList_eq_nil_iff.mp empty)

theorem readDecimal_of_digits {s : String} (nonempty : s ≠ "")
    (digits : ∀ c ∈ s.toList, c.isDigit) :
    readDecimal s = if s.length ≤ maxDecimalDigits then .ok (Nat.ofDigitChars 10 s.toList 0)
      else .error ⟨s, .ten, .tooManyDigits⟩ := by
  rw [readDecimal, read?_ten (toList_ne_nil nonempty) digits]

theorem readDecimal_of_not_digits {s : String}
    (unreadable : s = "" ∨ ∃ c ∈ s.toList, ¬ c.isDigit) :
    readDecimal s = .error ⟨s, .ten, .malformed⟩ := by
  have none : read? .ten s.toList = none :=
    read?_ten_eq_none (unreadable.imp_left String.toList_eq_nil_iff.mpr)
  rw [readDecimal, none]

theorem tryRead_ten (s : String) : tryRead .ten s = (readDecimal s).toOption := by
  simp only [tryRead, withinLimit, readDecimal, decide_eq_true_eq]
  cases read? .ten s.toList with
  | none => simp [Except.toOption]
  | some n =>
      dsimp only
      split <;> rfl

theorem decimal_ne_empty (n : ℕ) : decimal n ≠ "" := by
  intro empty
  have digits := congrArg String.toList empty
  rw [decimal, String.toList_ofList] at digits
  exact Nat.toDigits_ne_nil digits

theorem readDecimal_decimal (n : ℕ) :
    readDecimal (decimal n) = if n < 10 ^ maxDecimalDigits then .ok n
      else .error ⟨decimal n, .ten, .tooManyDigits⟩ := by
  have length : (decimal n).length ≤ maxDecimalDigits ↔ n < 10 ^ maxDecimalDigits := by
    rw [decimal, ← String.length_toList, String.toList_ofList]
    exact Digits.length_toDigits_le_iff (by decide)
  have numeral : read? .ten (decimal n).toList = some n := by
    rw [decimal, String.toList_ofList]
    exact read?_toDigits .ten n
  rw [readDecimal, numeral]
  simp only [length]

theorem toNat_toLower (c : Char) :
    c.toLower.toNat = if 65 ≤ c.toNat ∧ c.toNat ≤ 90 then c.toNat + 32 else c.toNat := by
  have upper : (c.val ≥ 'A'.val ∧ c.val ≤ 'Z'.val) = (65 ≤ c.toNat ∧ c.toNat ≤ 90) := by
    simp only [ge_iff_le, UInt32.le_iff_toNat_le]
    rfl
  unfold Char.toLower
  simp only [upper]
  split
  · rename_i letter
    have small : (c.toNat + 32) % 4294967296 = c.toNat + 32 := by omega
    simpa using small
  · rfl

theorem digit?_sixteen (c : Char) :
    Base.sixteen.digit? c =
      if 48 ≤ c.toNat ∧ c.toNat ≤ 57 then some (c.toNat - 48)
      else if 97 ≤ c.toNat ∧ c.toNat ≤ 102 then some (c.toNat - 97 + 10)
      else if 65 ≤ c.toNat ∧ c.toNat ≤ 70 then some (c.toNat - 65 + 10) else none := by
  simp only [Base.digit?, Char.le_def, UInt32.le_iff_toNat_le]
  rfl

theorem digit?_toLower (c : Char) : Base.sixteen.digit? c.toLower = Base.sixteen.digit? c := by
  rw [digit?_sixteen, digit?_sixteen, toNat_toLower]
  split_ifs <;> first | omega | rfl

theorem read?_map_toLower (cs : List Char) :
    read? .sixteen (cs.map Char.toLower) = read? .sixteen cs := by
  cases cs with
  | nil => rfl
  | cons c cs =>
      rw [List.map_cons, read?, read?, ← List.map_cons, List.mapM_map]
      simp only [Function.comp_def, digit?_toLower]

theorem read?_replicate_zero (base : Base) (zeros : ℕ) {cs : List Char} (nonempty : cs ≠ []) :
    read? base (List.replicate zeros '0' ++ cs) = read? base cs := by
  have zero : base.digit? '0' = some 0 := by cases base <;> rfl
  induction zeros with
  | zero => rfl
  | succ zeros ih =>
      obtain ⟨c, rest, front⟩ := List.exists_cons_of_ne_nil
        (List.append_ne_nil_of_right_ne_nil (List.replicate zeros '0') nonempty)
      rw [← ih, List.replicate_succ, List.cons_append, front, read?, read?, List.mapM_cons, zero]
      cases (c :: rest).mapM base.digit? with
      | none => rfl
      | some digits =>
          simp only [Option.pure_def, Option.bind_eq_bind, Option.bind_some, Option.map_some,
            ofDigits, List.foldl_cons, Nat.mul_zero, Nat.add_zero]

/-- How a number may be spelled in base sixteen: behind at most one mark, with any zeros in front
and letters of either case. No digits at all spell zero. -/
def HexSpelling (n : ℕ) (h : String) : Prop :=
  ∃ digits, (h.toList = digits ∨ h.toList = '0' :: 'x' :: digits) ∧
    (digits = [] ∧ n = 0 ∨
      ∃ zeros, digits.map Char.toLower = List.replicate zeros '0' ++ Nat.toDigits 16 n)

theorem toLower_digitChar {d : ℕ} (small : d < 16) : d.digitChar.toLower = d.digitChar :=
  (by decide : ∀ d < 16, d.digitChar.toLower = d.digitChar) d small

theorem hexSpelling_hex (n : ℕ) : HexSpelling n (hex n) := by
  have lower : (Nat.toDigits 16 n).map Char.toLower = Nat.toDigits 16 n := by
    conv_rhs => rw [← List.map_id (Nat.toDigits 16 n)]
    apply List.map_congr_left
    intro c inside
    obtain ⟨d, small, rfl⟩ := Digits.exists_digitChar_of_mem (by decide) inside
    exact toLower_digitChar small
  exact ⟨Nat.toDigits 16 n, Or.inr String.toList_ofList, Or.inr ⟨0, lower⟩⟩

/-- Behind its mark a spelling has no digits or reads as its number. -/
theorem read?_of_hexSpelling {n : ℕ} {h : String} (spelling : HexSpelling n h) :
    dropHexMark h = "" ∧ n = 0 ∨
      dropHexMark h ≠ "" ∧ read? .sixteen (dropHexMark h).toList = some n := by
  obtain ⟨digits, shape, spelled⟩ := spelling
  have reads : digits = [] ∧ n = 0 ∨ read? .sixteen digits = some n := by
    apply spelled.imp_right
    rintro ⟨zeros, lower⟩
    rw [← read?_map_toLower, lower, read?_replicate_zero _ _ Nat.toDigits_ne_nil]
    exact read?_toDigits .sixteen n
  have behind : (dropHexMark h).toList = digits := by
    rcases shape with bare | marked
    · unfold dropHexMark
      split
      · rename_i rest marked
        rw [← bare, marked] at reads
        have spoiled : read? .sixteen ('0' :: 'x' :: rest) = none :=
          read?_eq_none (c := 'x') (by simp) rfl
        rw [spoiled] at reads
        simp at reads
      · exact bare
    · rw [dropHexMark, marked]
      exact String.toList_ofList
  rw [← String.toList_eq_nil_iff, ne_eq, ← String.toList_eq_nil_iff, behind]
  rcases reads with empty | number
  · exact Or.inl empty
  · right
    refine ⟨?_, number⟩
    rintro rfl
    cases number

end WalletKit.Numeral
