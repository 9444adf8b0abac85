import Mathlib.Algebra.Group.Nat.Defs
import Mathlib.Data.List.Basic
import Mathlib.Data.List.Induction
import WalletKit.Numeral.Writing

set_option autoImplicit false

namespace WalletKit

namespace Base

theorem one_lt_radix (base : Base) : 1 < base.radix := by
  cases base <;> decide

theorem digit?_ten (c : Char) :
    Base.ten.digit? c = if c.isDigit then some (c.toNat - '0'.toNat) else none := by
  simp only [digit?, Char.le_def, UInt32.le_iff_toNat_le, Char.isDigit_iff_toNat]
  rfl

theorem digit?_digitChar {base : Base} {d : ℕ} (small : d < base.radix) :
    base.digit? d.digitChar = some d := by
  cases base with
  | ten => exact (by decide : ∀ d < 10, Base.ten.digit? d.digitChar = some d) d small
  | sixteen => exact (by decide : ∀ d < 16, Base.sixteen.digit? d.digitChar = some d) d small

end Base

namespace Numeral

theorem read?_singleton (base : Base) (c : Char) : read? base [c] = base.digit? c := by
  cases found : base.digit? c <;> simp [read?, found, ofDigits]

theorem read?_concat (base : Base) {cs : List Char} (nonempty : cs ≠ []) (last : Char) :
    read? base (cs ++ [last]) =
      (read? base cs).bind fun n => (base.digit? last).map fun d => base.radix * n + d := by
  obtain ⟨c, cs, rfl⟩ := List.exists_cons_of_ne_nil nonempty
  rw [List.cons_append]
  simp only [read?, ← List.cons_append, List.mapM_append]
  cases front : (c :: cs).mapM base.digit? with
  | none => rfl
  | some digits =>
      cases back : base.digit? last with
      | none => simp [back]
      | some d => simp [back, ofDigits_concat]

theorem read?_toDigits (base : Base) (n : ℕ) :
    read? base (Nat.toDigits base.radix n) = some n := by
  induction n using Nat.strongRecOn with
  | ind n ih =>
      have large := base.one_lt_radix
      rw [Nat.toDigits_eq_if large]
      split
      · rename_i small
        rw [read?_singleton, Base.digit?_digitChar small]
      · have less : n / base.radix < n := Nat.div_lt_self (by omega) large
        rw [read?_concat base Nat.toDigits_ne_nil, ih _ less,
          Base.digit?_digitChar (Nat.mod_lt n (by omega))]
        exact congrArg some (Nat.div_add_mod n base.radix)

theorem read?_eq_none {base : Base} {cs : List Char} {c : Char} (inside : c ∈ cs)
    (bad : base.digit? c = none) : read? base cs = none := by
  have spoiled : cs.mapM base.digit? = none := by
    induction cs with
    | nil => cases inside
    | cons head tail ih =>
        rw [List.mapM_cons]
        rcases List.mem_cons.mp inside with rfl | later
        · rw [bad]
          rfl
        · rw [ih later]
          cases base.digit? head <;> rfl
  cases cs with
  | nil => rfl
  | cons head tail => rw [read?, spoiled, Option.map_none]

theorem read?_ten {cs : List Char} (nonempty : cs ≠ []) (digits : ∀ c ∈ cs, c.isDigit) :
    read? .ten cs = some (Nat.ofDigitChars 10 cs 0) := by
  have values : cs.mapM Base.ten.digit? = some (cs.map fun c => c.toNat - '0'.toNat) := by
    clear nonempty
    induction cs with
    | nil => rfl
    | cons c cs ih =>
        rw [List.forall_mem_cons] at digits
        rw [List.mapM_cons, ih digits.2, Base.digit?_ten, if_pos digits.1]
        rfl
  obtain ⟨c, cs, rfl⟩ := List.exists_cons_of_ne_nil nonempty
  rw [read?, values, Option.map_some, ofDigits, List.foldl_map]
  rfl

theorem read?_ten_eq_none {cs : List Char} (unreadable : cs = [] ∨ ∃ c ∈ cs, ¬ c.isDigit) :
    read? .ten cs = none := by
  rcases unreadable with rfl | ⟨c, inside, bad⟩
  · rfl
  · exact read?_eq_none inside (by rw [Base.digit?_ten, if_neg bad])

end Numeral

namespace Digits

theorem isDigit_toDigits {n : ℕ} {c : Char} (inside : c ∈ Nat.toDigits 10 n) : c.isDigit :=
  Nat.isDigit_of_mem_toDigits (by decide) (by decide) inside

theorem ofDigitChars_append (front back : List Char) :
    Nat.ofDigitChars 10 (front ++ back) 0 =
      10 ^ back.length * Nat.ofDigitChars 10 front 0 + Nat.ofDigitChars 10 back 0 := by
  rw [Nat.ofDigitChars_append, Nat.ofDigitChars_eq_ofDigitChars_zero]

theorem ofDigitChars_singleton (c : Char) : Nat.ofDigitChars 10 [c] 0 = c.toNat - '0'.toNat := by
  rw [Nat.ofDigitChars_cons, Nat.ofDigitChars_nil, Nat.mul_zero, Nat.zero_add]

theorem digit_lt_ten {c : Char} (digit : c.isDigit) : c.toNat - '0'.toNat < 10 := by
  have bounds := Char.isDigit_iff_toNat.mp digit
  have zero : '0'.toNat = 48 := rfl
  have nine : '9'.toNat = 57 := rfl
  omega

theorem digitChar_toNat_sub {c : Char} (digit : c.isDigit) :
    (c.toNat - '0'.toNat).digitChar = c := by
  apply Char.toNat_inj.mp
  have bounds := Char.isDigit_iff_toNat.mp digit
  have zero : '0'.toNat = 48 := rfl
  rw [Nat.toNat_digitChar_of_lt_ten (digit_lt_ten digit)]
  omega

theorem ofDigitChars_lt {cs : List Char} (digits : ∀ c ∈ cs, c.isDigit) :
    Nat.ofDigitChars 10 cs 0 < 10 ^ cs.length := by
  induction cs using List.reverseRecOn with
  | nil => exact Nat.one_pos
  | append_singleton cs c ih =>
      rw [List.forall_mem_append, List.forall_mem_singleton] at digits
      have front := ih digits.1
      have last := digit_lt_ten digits.2
      rw [ofDigitChars_append, ofDigitChars_singleton, List.length_append, Nat.pow_add]
      simp only [List.length_singleton, Nat.pow_one]
      omega

theorem head?_toDigits {radix n : ℕ} (large : 1 < radix) (positive : 0 < n) :
    (Nat.toDigits radix n).head? ≠ some '0' := by
  induction n using Nat.strongRecOn with
  | ind n ih =>
      rw [Nat.toDigits_eq_if large]
      split
      · simp only [List.head?_cons, ne_eq, Option.some.injEq, Nat.digitChar_eq_zero]
        omega
      · rename_i high
        have quotient : 0 < n / radix := Nat.div_pos (by omega) (by omega)
        rw [List.head?_append_of_ne_nil _ Nat.toDigits_ne_nil]
        exact ih _ (Nat.div_lt_self positive large) quotient

/-- Digit by digit, a run of values is the numeral of its number behind superfluous zeros. -/
theorem map_digitChar_eq {radix : ℕ} (large : 1 < radix) {values : List ℕ}
    (nonempty : values ≠ []) (small : ∀ d ∈ values, d < radix) :
    ∃ zeros, values.map Nat.digitChar =
      List.replicate zeros '0' ++ Nat.toDigits radix (Numeral.ofDigits radix values) := by
  induction values using List.reverseRecOn with
  | nil => exact absurd rfl nonempty
  | append_singleton values d ih =>
      rw [List.forall_mem_append, List.forall_mem_singleton] at small
      have last := Nat.toDigits_of_lt_base small.2
      rw [List.map_append, List.map_singleton, ← last, Numeral.ofDigits_concat]
      by_cases alone : values = []
      · subst alone
        exact ⟨0, by simp [Numeral.ofDigits]⟩
      · obtain ⟨zeros, front⟩ := ih alone small.1
        rw [front]
        -- The numeral of zero is one more superfluous zero once a digit follows it.
        rcases Nat.eq_zero_or_pos (Numeral.ofDigits radix values) with zero | positive
        · refine ⟨zeros + 1, ?_⟩
          rw [zero, Nat.mul_zero, Nat.zero_add, Nat.toDigits_zero, List.replicate_succ']
        · refine ⟨zeros, ?_⟩
          rw [List.append_assoc, Nat.toDigits_append_toDigits large positive small.2]

/-- Without a superfluous zero in front, a run of digits is the numeral of its number. -/
theorem toDigits_ofDigitChars {cs : List Char} (nonempty : cs ≠ [])
    (digits : ∀ c ∈ cs, c.isDigit) (canonical : cs.head? = some '0' → cs = ['0']) :
    Nat.toDigits 10 (Nat.ofDigitChars 10 cs 0) = cs := by
  have written : (cs.map fun c => c.toNat - '0'.toNat).map Nat.digitChar = cs := by
    rw [List.map_map]
    conv_rhs => rw [← List.map_id cs]
    exact List.map_congr_left fun c inside => digitChar_toNat_sub (digits c inside)
  have small : ∀ d ∈ cs.map fun c => c.toNat - '0'.toNat, d < 10 := by
    intro d inside
    obtain ⟨c, digit, rfl⟩ := List.mem_map.mp inside
    exact digit_lt_ten (digits c digit)
  obtain ⟨zeros, run⟩ := map_digitChar_eq (by decide) (List.map_eq_nil_iff.not.mpr nonempty) small
  rw [written, Numeral.ofDigits, List.foldl_map] at run
  change cs = List.replicate zeros '0' ++ Nat.toDigits 10 (Nat.ofDigitChars 10 cs 0) at run
  cases zeros with
  | zero => exact run.symm
  | succ zeros =>
      have zero : cs.head? = some '0' := by rw [run, List.replicate_succ]; rfl
      have length := congrArg List.length run
      rw [canonical zero, List.length_append, List.length_replicate] at length
      have longer := Nat.length_toDigits_pos (b := 10) (n := Nat.ofDigitChars 10 ['0'] 0)
      simp only [List.length_singleton] at length
      omega

theorem exists_digitChar_of_mem {radix n : ℕ} {c : Char} (large : 1 < radix)
    (inside : c ∈ Nat.toDigits radix n) : ∃ d < radix, c = d.digitChar := by
  induction n using Nat.strongRecOn with
  | ind n ih =>
      rw [Nat.toDigits_eq_if large] at inside
      split at inside
      · rename_i small
        exact ⟨n, small, List.mem_singleton.mp inside⟩
      · rcases List.mem_append.mp inside with front | last
        · exact ih _ (Nat.div_lt_self (by omega) large) front
        · exact ⟨_, Nat.mod_lt n (by omega), List.mem_singleton.mp last⟩

theorem length_toDigits_le_iff {n k : ℕ} (positive : 0 < k) :
    (Nat.toDigits 10 n).length ≤ k ↔ n < 10 ^ k :=
  Nat.length_toDigits_le_iff (by decide) positive

theorem lt_pow_length_toDigits (n : ℕ) : n < 10 ^ (Nat.toDigits 10 n).length :=
  (length_toDigits_le_iff Nat.length_toDigits_pos).mp (Nat.le_refl _)

theorem pow_le_of_length_toDigits {n : ℕ} (positive : 0 < n) :
    10 ^ ((Nat.toDigits 10 n).length - 1) ≤ n := by
  rcases Nat.eq_zero_or_pos ((Nat.toDigits 10 n).length - 1) with single | several
  · rw [single]
    exact positive
  · have longer := length_toDigits_le_iff (n := n) several
    omega

end Digits

end WalletKit
