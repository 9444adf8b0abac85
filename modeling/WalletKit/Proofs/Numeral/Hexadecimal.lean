import Mathlib.Data.Bool.AllAny
import Mathlib.Data.Nat.Digits.Defs
import WalletKit.Proofs.Numeral.Reading

set_option autoImplicit false

namespace WalletKit.Numeral

/-- The hexadecimal digits in the order of their values. -/
def hexAlphabet : List Char := "0123456789abcdef".toList

def IsHexDigit (c : Char) : Prop := c.toLower ∈ hexAlphabet

instance (c : Char) : Decidable (IsHexDigit c) := inferInstanceAs (Decidable (_ ∈ _))

def hexDigitValue (c : Char) : ℕ := hexAlphabet.idxOf c.toLower

/-- The positional value of a run of hexadecimal digits. -/
def hexNumber (cs : List Char) : ℕ := Nat.ofDigits 16 (cs.map hexDigitValue).reverse

/-- What stands behind one leading hex mark, or everything if there is none. -/
def behindMark (s : String) : List Char :=
  if ['0', 'x'] <+: s.toList then s.toList.drop 2 else s.toList

theorem toList_dropHexMark (s : String) : (dropHexMark s).toList = behindMark s := by
  unfold dropHexMark behindMark
  split
  · rename_i rest marked
    rw [if_pos (by rw [marked]; exact List.prefix_append ['0', 'x'] rest), marked,
      String.toList_ofList]
    rfl
  · rename_i unmarked
    rw [if_neg]
    rintro ⟨rest, marked⟩
    exact unmarked rest marked.symm

theorem dropHexMark_eq_empty_iff (s : String) : dropHexMark s = "" ↔ behindMark s = [] := by
  rw [← toList_dropHexMark, String.toList_eq_nil_iff]

theorem hasHexMark_iff (s : String) :
    hasHexMark s = true ↔ ∃ rest, s.toList = '0' :: 'x' :: rest := by
  unfold hasHexMark
  split
  · rename_i rest marked
    exact iff_of_true rfl ⟨rest, marked⟩
  · rename_i unmarked
    simpa using unmarked

theorem behindMark_of_marked {s : String} {rest : List Char}
    (marked : s.toList = '0' :: 'x' :: rest) : behindMark s = rest := by
  rw [← toList_dropHexMark, dropHexMark, marked]
  exact String.toList_ofList

theorem behindMark_of_digits {digits : List Char} (each : ∀ d ∈ digits, IsHexDigit d) :
    behindMark (String.ofList digits) = digits := by
  rw [behindMark, String.toList_ofList, if_neg]
  rintro ⟨rest, rfl⟩
  exact absurd (each 'x' (by simp)) (by decide)

theorem digit?_eq_of_lt {n : ℕ} (ascii : n < 128) :
    Base.sixteen.digit? (Char.ofNat n) =
      if IsHexDigit (Char.ofNat n) then some (hexDigitValue (Char.ofNat n)) else none :=
  (by decide +kernel : ∀ n < 128, Base.sixteen.digit? (Char.ofNat n) =
    if IsHexDigit (Char.ofNat n) then some (hexDigitValue (Char.ofNat n)) else none) n ascii

/-- The digits that are read are those of the alphabet, and have their places as values. -/
theorem digit?_eq (c : Char) :
    Base.sixteen.digit? c = if IsHexDigit c then some (hexDigitValue c) else none := by
  by_cases ascii : c.toNat < 128
  · have same := digit?_eq_of_lt ascii
    rwa [Char.ofNat_toNat] at same
  · have high : c.toLower.toNat = c.toNat := by
      rw [toNat_toLower, if_neg (by omega)]
    have low : ∀ d ∈ hexAlphabet, d.toNat < 128 := List.all_iff_forall_prop.mp (by decide)
    rw [digit?_sixteen, if_neg (by omega), if_neg (by omega), if_neg (by omega), if_neg]
    intro digit
    have bound := low _ digit
    omega

theorem digitChar_mem_hexAlphabet {d : ℕ} (small : d < 16) : d.digitChar ∈ hexAlphabet :=
  (by decide : ∀ d < 16, d.digitChar ∈ hexAlphabet) d small

theorem isHexDigit_of_mem_hexAlphabet {c : Char} (inside : c ∈ hexAlphabet) : IsHexDigit c :=
  (List.all_iff_forall_prop.mp (by decide) : ∀ c ∈ hexAlphabet, IsHexDigit c) c inside

theorem hexNumber_append (front back : List Char) :
    hexNumber (front ++ back) = 16 ^ back.length * hexNumber front + hexNumber back := by
  rw [hexNumber, hexNumber, hexNumber, List.map_append, List.reverse_append, Nat.ofDigits_append,
    List.length_reverse, List.length_map, Nat.add_comm]

theorem ofDigits_eq (radix : ℕ) (digits : List ℕ) :
    ofDigits radix digits = Nat.ofDigits radix digits.reverse := by
  rw [Nat.ofDigits_eq_foldr, List.foldr_reverse, ofDigits]
  simp only [Nat.cast_id, Nat.add_comm]

theorem read?_sixteen {cs : List Char} (nonempty : cs ≠ []) (digits : ∀ c ∈ cs, IsHexDigit c) :
    read? .sixteen cs = some (hexNumber cs) := by
  have values : cs.mapM Base.sixteen.digit? = some (cs.map hexDigitValue) := by
    clear nonempty
    induction cs with
    | nil => rfl
    | cons c cs ih =>
        rw [List.forall_mem_cons] at digits
        rw [List.mapM_cons, ih digits.2, digit?_eq, if_pos digits.1]
        rfl
  obtain ⟨c, cs, rfl⟩ := List.exists_cons_of_ne_nil nonempty
  rw [read?, values, Option.map_some, ofDigits_eq, hexNumber]
  rfl

theorem read?_sixteen_eq_none {cs : List Char}
    (unreadable : cs = [] ∨ ∃ c ∈ cs, ¬ IsHexDigit c) : read? .sixteen cs = none := by
  rcases unreadable with rfl | ⟨c, inside, bad⟩
  · rfl
  · exact read?_eq_none inside (by rw [digit?_eq, if_neg bad])

theorem readHex_of_digits {s : String} (nonempty : s ≠ "") (digits : ∀ c ∈ s.toList, IsHexDigit c) :
    readHex s = .ok (hexNumber s.toList) := by
  rw [readHex, read?_sixteen (toList_ne_nil nonempty) digits]

theorem readHex_of_not_digits {s : String}
    (unreadable : s = "" ∨ ∃ c ∈ s.toList, ¬ IsHexDigit c) :
    readHex s = .error ⟨s, .sixteen, .malformed⟩ := by
  have none : read? .sixteen s.toList = none :=
    read?_sixteen_eq_none (unreadable.imp_left String.toList_eq_nil_iff.mpr)
  rw [readHex, none]

theorem behindMark_hex (n : ℕ) : behindMark (hex n) = Nat.toDigits 16 n := by
  rw [← toList_dropHexMark, dropHexMark, hex, String.toList_ofList]
  exact String.toList_ofList

theorem mem_hexAlphabet_of_mem_toDigits {n : ℕ} {c : Char} (inside : c ∈ Nat.toDigits 16 n) :
    c ∈ hexAlphabet := by
  obtain ⟨d, small, rfl⟩ := Digits.exists_digitChar_of_mem (by decide) inside
  exact digitChar_mem_hexAlphabet small

theorem isHexDigit_toDigits {n : ℕ} {c : Char} (inside : c ∈ Nat.toDigits 16 n) :
    IsHexDigit c :=
  isHexDigit_of_mem_hexAlphabet (mem_hexAlphabet_of_mem_toDigits inside)

theorem hexNumber_toDigits (n : ℕ) : hexNumber (Nat.toDigits 16 n) = n := by
  have numeral := read?_toDigits .sixteen n
  have positional := read?_sixteen Nat.toDigits_ne_nil fun c => isHexDigit_toDigits (n := n)
  rw [show Base.sixteen.radix = 16 from rfl, positional] at numeral
  exact Option.some.inj numeral

theorem length_paddedHex {width n : ℕ} (positive : 0 < width) (small : n < 16 ^ width) :
    (Text.paddedHex width n).length = width := by
  have fits : (Nat.toDigits 16 n).length ≤ width :=
    (Nat.length_toDigits_le_iff (by decide) positive).mpr small
  rw [Text.paddedHex, List.length_append, List.length_replicate]
  omega

theorem read?_paddedHex (width n : ℕ) : read? .sixteen (Text.paddedHex width n) = some n := by
  rw [Text.paddedHex, read?_replicate_zero _ _ Nat.toDigits_ne_nil]
  exact read?_toDigits .sixteen n

theorem mem_hexAlphabet_of_mem_paddedHex {width n : ℕ} {c : Char}
    (inside : c ∈ Text.paddedHex width n) : c ∈ hexAlphabet := by
  rcases List.mem_append.mp inside with zero | digit
  · rw [List.eq_of_mem_replicate zero]
    decide
  · exact mem_hexAlphabet_of_mem_toDigits digit

theorem hexNumber_paddedHex (width n : ℕ) : hexNumber (Text.paddedHex width n) = n := by
  have nonempty : Text.paddedHex width n ≠ [] :=
    List.append_ne_nil_of_right_ne_nil _ Nat.toDigits_ne_nil
  have positional := read?_sixteen nonempty fun c inside =>
    isHexDigit_of_mem_hexAlphabet (mem_hexAlphabet_of_mem_paddedHex inside)
  rw [read?_paddedHex] at positional
  exact (Option.some.inj positional).symm

end WalletKit.Numeral
