import WalletKit.Proofs.Numeral.Hexadecimal
import WalletKit.Text.Quoted

set_option autoImplicit false

namespace WalletKit

namespace CodePoint

/-- One range ends before the other begins. -/
def Precedes (first second : ℕ × ℕ) : Prop := first.1 ≤ first.2 ∧ first.2 < second.1

instance (first second : ℕ × ℕ) : Decidable (Precedes first second) :=
  inferInstanceAs (Decidable (_ ∧ _))

instance : Trans Precedes Precedes Precedes where
  trans first second := ⟨first.1, Nat.lt_trans first.2 (Nat.lt_of_le_of_lt second.1 second.2)⟩

theorem precedes_unprintableRanges : unprintableRanges.IsChain Precedes := by decide +kernel

theorem inRanges_of_mem {ranges : List (ℕ × ℕ)} (ordered : ranges.Pairwise Precedes)
    {range : ℕ × ℕ} (listed : range ∈ ranges) {n : ℕ} (low : range.1 ≤ n) (high : n ≤ range.2) :
    inRanges n ranges = true := by
  induction ranges with
  | nil => cases listed
  | cons head rest ih =>
      obtain ⟨before, later⟩ := List.pairwise_cons.mp ordered
      rcases List.mem_cons.mp listed with rfl | inside
      · rw [inRanges, if_neg (by omega)]
        simp [high]
      · have order := before range inside
        unfold Precedes at order
        rw [inRanges, if_neg (by omega), ih later inside, Bool.or_true]

theorem isPrintable_eq_false {range : ℕ × ℕ} (listed : range ∈ unprintableRanges) {n : ℕ}
    (low : range.1 ≤ n) (high : n ≤ range.2) : isPrintable n = false := by
  have ordered := List.isChain_iff_pairwise.mp precedes_unprintableRanges
  rw [isPrintable, inRanges_of_mem ordered listed low high]
  rfl

theorem toNat_ofNat_of_isPrintable {p : CodePoint} (printable : isPrintable p.val = true) :
    (Char.ofNat p.val).toNat = p.val := by
  have noSurrogate : ¬ (0xd800 ≤ p.val ∧ p.val ≤ 0xdfff) := by
    rintro ⟨low, high⟩
    have listed : (0xd7fc, 0xf8ff) ∈ unprintableRanges := by decide +kernel
    have unprintable : isPrintable p.val = false :=
      isPrintable_eq_false listed (by dsimp only; omega) (by dsimp only; omega)
    rw [unprintable] at printable
    cases printable
  have valid : p.val.isValidChar := by
    have bound := p.isLt
    unfold Nat.isValidChar
    omega
  rw [Char.ofNat, dif_pos valid]
  rfl

end CodePoint

namespace Text

open Numeral

/-- Escapes of one letter, and what they stand for. -/
def letterEscapes : List (Char × Char) :=
  [('\\', '\\'), ('\'', '\''), ('"', '"'), ('n', '\n'), ('r', '\r'), ('t', '\t')]

/-- Escapes by number, and how many digits they have. -/
def numberEscapes : List (Char × ℕ) := [('x', 2), ('u', 4), ('U', 8)]

/-- The code point whose number these digits spell. -/
def ofHexDigits? (digits : List Char) : Option CodePoint :=
  (read? .sixteen digits).bind fun n => if small : n < 0x110000 then some ⟨n, small⟩ else none

/-- What a backslash and the characters behind it stand for, and the characters behind that. -/
def readEscape? : List Char → Option (CodePoint × List Char)
  | [] => none
  | e :: cs =>
    match letterEscapes.lookup e, numberEscapes.lookup e with
    | some c, _ => some (.ofChar c, cs)
    | none, some width => (ofHexDigits? (cs.take width)).map fun p => (p, cs.drop width)
    | none, none => none

/-- The first code point of what stands between quotes, and the characters behind it. -/
def readPiece? : List Char → Option (CodePoint × List Char)
  | [] => none
  | c :: cs => if c = '\\' then readEscape? cs else some (.ofChar c, cs)

theorem length_lt_of_readPiece? {cs rest : List Char} {p : CodePoint}
    (found : readPiece? cs = some (p, rest)) : rest.length < cs.length := by
  cases cs with
  | nil => cases found
  | cons c cs =>
      rw [readPiece?] at found
      split at found
      · cases cs with
        | nil => cases found
        | cons e cs =>
            rw [readEscape?] at found
            split at found
            · cases found
              simp only [List.length_cons]
              omega
            · obtain ⟨p, -, same⟩ := Option.map_eq_some_iff.mp found
              cases same
              simp only [List.length_drop, List.length_cons]
              omega
            · cases found
      · cases found
        simp

/-- The code points before the mark `q`, and the characters behind it. -/
def readUntil (q : Char) (cs : List Char) : Option (Text × List Char) :=
  if cs.head? = some q then some ([], cs.tail)
  else
    match _found : readPiece? cs with
    | none => none
    | some (p, rest) => (readUntil q rest).map fun (t, behind) => (p :: t, behind)
termination_by cs.length
decreasing_by exact length_lt_of_readPiece? _found

/-- The text that a quoted form at the front quotes, and the characters behind it. -/
def unquote? : List Char → Option (Text × List Char)
  | [] => none
  | q :: cs => if q = '\'' ∨ q = '"' then readUntil q cs else none

theorem readPiece?_number {e : Char} {width : ℕ} (listed : numberEscapes.lookup e = some width)
    (noLetter : letterEscapes.lookup e = none) (positive : 0 < width) {p : CodePoint}
    (small : p.val < 16 ^ width) (rest : List Char) :
    readPiece? ('\\' :: e :: (paddedHex width p.val ++ rest)) = some (p, rest) := by
  have length := length_paddedHex positive small
  have number : ofHexDigits? (paddedHex width p.val) = some p := by
    rw [ofHexDigits?, read?_paddedHex, Option.bind_some, dif_pos p.isLt]
  rw [readPiece?, if_pos rfl, readEscape?, listed, noLetter]
  dsimp only
  rw [List.take_left' length, List.drop_left' length, number]
  rfl

theorem readPiece?_escapeNumber (p : CodePoint) (rest : List Char) :
    readPiece? (escapeNumber p.val ++ rest) = some (p, rest) := by
  unfold escapeNumber
  split_ifs with two four
  · exact readPiece?_number rfl rfl (by decide) two rest
  · exact readPiece?_number rfl rfl (by decide) four rest
  · have bound := p.isLt
    exact readPiece?_number rfl rfl (by decide) (by omega) rest

section Mark

variable {q : Char} (mark : q = '\'' ∨ q = '"')

include mark

theorem readPiece?_escape (p : CodePoint) (rest : List Char) :
    readPiece? (escape q p ++ rest) = some (p, rest) := by
  unfold escape
  split_ifs with backslash quote newline carriageReturn tab printable
  · rw [show p = CodePoint.ofChar '\\' from Fin.ext backslash]
    rfl
  · rw [show p = CodePoint.ofChar q from Fin.ext quote]
    rcases mark with rfl | rfl <;> rfl
  · rw [show p = CodePoint.ofChar '\n' from Fin.ext newline]
    rfl
  · rw [show p = CodePoint.ofChar '\r' from Fin.ext carriageReturn]
    rfl
  · rw [show p = CodePoint.ofChar '\t' from Fin.ext tab]
    rfl
  · have number := CodePoint.toNat_ofNat_of_isPrintable printable
    have plain : Char.ofNat p.val ≠ '\\' := by
      intro same
      rw [same] at number
      exact backslash number.symm
    rw [List.singleton_append, readPiece?, if_neg plain]
    exact congrArg (fun p => some (p, rest)) (Fin.ext number)
  · exact readPiece?_escapeNumber p rest

/-- No written form begins with the mark, so the first one ends the text. -/
theorem head?_escape_ne (p : CodePoint) (rest : List Char) :
    (escape q p ++ rest).head? ≠ some q := by
  have noBackslash : '\\' ≠ q := by rcases mark with rfl | rfl <;> decide
  unfold escape escapeNumber
  split_ifs with backslash quote newline carriageReturn tab printable
  all_goals
    rw [List.cons_append, List.head?_cons, ne_eq, Option.some_inj]
    try exact noBackslash
  -- All written forms begin with a backslash but that of a printable code point.
  intro same
  have number := CodePoint.toNat_ofNat_of_isPrintable printable
  rw [same] at number
  exact quote number.symm

theorem readUntil_escape (p : CodePoint) (rest : List Char) :
    readUntil q (escape q p ++ rest) =
      (readUntil q rest).map fun (t, behind) => (p :: t, behind) := by
  rw [readUntil, if_neg (head?_escape_ne mark p rest)]
  split
  · rename_i nothing
    rw [readPiece?_escape mark] at nothing
    cases nothing
  · rename_i found
    rw [readPiece?_escape mark] at found
    cases found
    rfl

theorem readUntil_flatMap_escape (t : Text) (rest : List Char) :
    readUntil q (t.flatMap (escape q) ++ q :: rest) = some (t, rest) := by
  induction t with
  | nil =>
      rw [List.flatMap_nil, List.nil_append, readUntil, if_pos (List.head?_cons)]
      rfl
  | cons p t ih =>
      rw [List.flatMap_cons, List.append_assoc, readUntil_escape mark, ih]
      rfl

end Mark

theorem quoteMark_cases (t : Text) : quoteMark t = '\'' ∨ quoteMark t = '"' := by
  unfold quoteMark
  split
  · exact Or.inr rfl
  · exact Or.inl rfl

theorem toList_quoted (s : String) : (quoted s).toList = quote (ofString s) := String.toList_ofList

/-- A quoted text is read back, and what stands behind it is left. -/
theorem unquote?_quote_append (t : Text) (rest : List Char) :
    unquote? (quote t ++ rest) = some (t, rest) := by
  have mark := quoteMark_cases t
  rw [quote, List.cons_append, List.append_assoc, List.singleton_append, unquote?, if_pos mark]
  exact readUntil_flatMap_escape mark t rest

theorem quote_append_inj {t u : Text} {rest rest' : List Char} :
    quote t ++ rest = quote u ++ rest' ↔ t = u ∧ rest = rest' := by
  constructor
  · intro same
    have reads := unquote?_quote_append t rest
    rw [same, unquote?_quote_append u rest'] at reads
    cases reads
    exact ⟨rfl, rfl⟩
  · rintro ⟨rfl, rfl⟩
    rfl

/-- The ASCII control characters and the other characters that end lines. -/
def BreaksLine (c : Char) : Prop := c.toNat < 0x20 ∨ c.toNat ∈ [0x7f, 0x85, 0x2028, 0x2029]

instance (c : Char) : Decidable (BreaksLine c) := inferInstanceAs (Decidable (_ ∨ _))

/-- Nothing at which the characters could be taken apart into lines. -/
def OnOneLine (cs : List Char) : Prop := ∀ c ∈ cs, ¬ BreaksLine c

instance (cs : List Char) : Decidable (OnOneLine cs) :=
  List.decidableBAll _ cs

theorem onOneLine_append_iff {front back : List Char} :
    OnOneLine (front ++ back) ↔ OnOneLine front ∧ OnOneLine back :=
  List.forall_mem_append

theorem onOneLine_cons_iff {c : Char} {cs : List Char} :
    OnOneLine (c :: cs) ↔ ¬ BreaksLine c ∧ OnOneLine cs :=
  List.forall_mem_cons

theorem not_breaksLine_of_isPrintable {c : Char}
    (printable : CodePoint.isPrintable c.toNat = true) :
    ¬ BreaksLine c := by
  have outside : ∀ range ∈ CodePoint.unprintableRanges,
      ¬ (range.1 ≤ c.toNat ∧ c.toNat ≤ range.2) := by
    rintro range listed ⟨low, high⟩
    rw [CodePoint.isPrintable_eq_false listed low high] at printable
    cases printable
  have control := outside (0, 0x1f) (by decide +kernel)
  have delete := outside (0x7f, 0xa0) (by decide +kernel)
  have separator := outside (0x2028, 0x202f) (by decide +kernel)
  dsimp only at control delete separator
  simp only [BreaksLine, List.mem_cons, List.not_mem_nil, or_false]
  omega

/-- Characters that can all be shown as they are. -/
def Printable (cs : List Char) : Prop := ∀ c ∈ cs, CodePoint.isPrintable c.toNat = true

instance (cs : List Char) : Decidable (Printable cs) :=
  List.decidableBAll _ cs

theorem Printable.onOneLine {cs : List Char} (printable : Printable cs) : OnOneLine cs :=
  fun c inside => not_breaksLine_of_isPrintable (printable c inside)

theorem printable_escapeNumber (n : ℕ) : Printable (escapeNumber n) := by
  have digits : Printable hexAlphabet := by decide
  unfold escapeNumber
  split_ifs
  all_goals
    intro c inside
    rcases List.mem_cons.mp inside with rfl | inside
    · rfl
    rcases List.mem_cons.mp inside with rfl | digit
    · rfl
    exact digits c (mem_hexAlphabet_of_mem_paddedHex digit)

theorem printable_escape {q : Char} (mark : q = '\'' ∨ q = '"') (p : CodePoint) :
    Printable (escape q p) := by
  unfold escape
  split_ifs with backslash quote newline carriageReturn tab printable
  · decide
  · rcases mark with rfl | rfl <;> decide
  · decide
  · decide
  · decide
  · intro c inside
    rw [List.mem_singleton.mp inside, CodePoint.toNat_ofNat_of_isPrintable printable]
    exact printable
  · exact printable_escapeNumber p.val

theorem printable_quote (t : Text) : Printable (quote t) := by
  have mark := quoteMark_cases t
  have ends : CodePoint.isPrintable (quoteMark t).toNat = true := by
    rcases mark with same | same <;> rw [same] <;> rfl
  intro c inside
  rw [quote, List.mem_cons, List.mem_append, List.mem_singleton, List.mem_flatMap] at inside
  rcases inside with rfl | ⟨p, -, written⟩ | rfl
  · exact ends
  · exact printable_escape mark p c written
  · exact ends

theorem onOneLine_quote (t : Text) : OnOneLine (quote t) := (printable_quote t).onOneLine

end Text

end WalletKit
