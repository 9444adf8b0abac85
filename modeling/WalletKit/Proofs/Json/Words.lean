import Mathlib.Data.List.TakeWhile
import WalletKit.Proofs.Json.Grammar

set_option autoImplicit false

namespace WalletKit.Json

open Numeral

namespace NumberText

/-- Behind a run of digits something else follows, or nothing. -/
def Stops (cs : List Char) : Prop := ∀ c, cs.head? = some c → ¬ c.isDigit

theorem isDigit_iff (c : Char) : isDigit c = true ↔ c.isDigit := by
  rw [isDigit, Base.isDigit, Base.digit?_ten]
  split
  · rename_i digit
    exact iff_of_true rfl digit
  · rename_i other
    exact iff_of_false Bool.false_ne_true other

theorem splitDigits?_append {ds rest : List Char} (nonempty : ds ≠ [])
    (digits : ∀ c ∈ ds, c.isDigit) (stops : Stops rest) :
    splitDigits? (ds ++ rest) = some (ds, rest) := by
  have all : ∀ c ∈ ds, isDigit c = true := fun c inside => (isDigit_iff c).mpr (digits c inside)
  have none : rest.takeWhile isDigit = [] ∧ rest.dropWhile isDigit = rest := by
    cases rest with
    | nil => exact ⟨rfl, rfl⟩
    | cons c cs =>
        have other : ¬ isDigit c = true := fun digit => stops c rfl ((isDigit_iff c).mp digit)
        exact ⟨List.takeWhile_cons_of_neg other, List.dropWhile_cons_of_neg other⟩
  rw [splitDigits?, List.takeWhile_append_of_pos all, List.dropWhile_append_of_pos all, none.1,
    none.2, List.append_nil]
  exact if_neg nonempty

theorem of_splitDigits? {cs ds rest : List Char} (split : splitDigits? cs = some (ds, rest)) :
    cs = ds ++ rest ∧ ds ≠ [] ∧ ∀ c ∈ ds, c.isDigit := by
  unfold splitDigits? at split
  dsimp only at split
  split at split
  · cases split
  · rename_i nonempty
    cases split
    refine ⟨List.takeWhile_append_dropWhile.symm, nonempty, ?_⟩
    intro c inside
    exact (isDigit_iff c).mp (List.mem_takeWhile_imp inside)

theorem splitSign_append (negative : Bool) {cs : List Char} (unsigned : cs.head? ≠ some '-') :
    splitSign ((if negative then ['-'] else []) ++ cs) = (negative, cs) := by
  cases negative with
  | true => rfl
  | false =>
      show splitSign cs = (false, cs)
      unfold splitSign
      split
      · exact absurd rfl unsigned
      · rfl

theorem splitSign_eq (cs : List Char) :
    cs = (if (splitSign cs).1 then ['-'] else []) ++ (splitSign cs).2 := by
  unfold splitSign
  split <;> rfl

theorem splitFraction?_append {fraction rest : List Char} (digits : ∀ c ∈ fraction, c.isDigit)
    (stops : Stops rest) (noPoint : rest.head? ≠ some '.') :
    splitFraction? ((if fraction = [] then [] else '.' :: fraction) ++ rest) =
      some (fraction, rest) := by
  by_cases empty : fraction = []
  · rw [if_pos empty, List.nil_append, empty]
    unfold splitFraction?
    split
    · exact absurd rfl noPoint
    · rfl
  · rw [if_neg empty]
    exact splitDigits?_append empty digits stops

theorem of_splitFraction? {cs fraction rest : List Char}
    (split : splitFraction? cs = some (fraction, rest)) :
    cs = (if fraction = [] then [] else '.' :: fraction) ++ rest ∧
      ∀ c ∈ fraction, c.isDigit := by
  unfold splitFraction? at split
  split at split
  · obtain ⟨rfl, nonempty, digits⟩ := of_splitDigits? split
    rw [if_neg nonempty]
    exact ⟨rfl, digits⟩
  · cases split
    exact ⟨rfl, by simp⟩

theorem natural_eq {ds : List Char} (digits : ∀ c ∈ ds, c.isDigit) :
    natural ds = Nat.ofDigitChars 10 ds 0 := by
  by_cases empty : ds = []
  · rw [empty]
    rfl
  · rw [natural, read?_ten empty digits, Option.getD_some]

theorem digitsOnly?_eq {negative : Bool} {ds : List Char} (nonempty : ds ≠ [])
    (digits : ∀ c ∈ ds, c.isDigit) :
    splitExponent?.digitsOnly? negative ds = some (negative, ds) := by
  refine if_pos ⟨nonempty, List.all_eq_true.mpr ?_⟩
  intro c inside
  exact (isDigit_iff c).mpr (digits c inside)

theorem of_digitsOnly? {negative sign : Bool} {cs ds : List Char}
    (split : splitExponent?.digitsOnly? negative cs = some (sign, ds)) :
    sign = negative ∧ ds = cs ∧ cs ≠ [] ∧ ∀ c ∈ cs, c.isDigit := by
  unfold splitExponent?.digitsOnly? at split
  split at split
  · rename_i nonempty
    cases split
    refine ⟨rfl, rfl, nonempty.1, ?_⟩
    intro c inside
    exact (isDigit_iff c).mp (List.all_eq_true.mp nonempty.2 c inside)
  · cases split

theorem splitExponent?_of_text {cs : List Char} {scale : ℤ} (text : ExponentText cs scale) :
    ∃ e tail negative ds, cs = e :: tail ∧ e ∈ ['e', 'E'] ∧
      splitExponent? tail = some (negative, ds) ∧ scale = signed negative (natural ds) := by
  cases text with
  | @unsigned e ds letter nonempty digits =>
      refine ⟨e, ds, false, ds, rfl, letter, ?_, by rw [natural_eq digits]; rfl⟩
      unfold splitExponent?
      split
      · exact absurd (digits '+' List.mem_cons_self) (by decide)
      · exact absurd (digits '-' List.mem_cons_self) (by decide)
      · exact digitsOnly?_eq nonempty digits
  | @plus e ds letter nonempty digits =>
      exact ⟨e, '+' :: ds, false, ds, rfl, letter, digitsOnly?_eq nonempty digits,
        by rw [natural_eq digits]; rfl⟩
  | @minus e ds letter nonempty digits =>
      exact ⟨e, '-' :: ds, true, ds, rfl, letter, digitsOnly?_eq nonempty digits,
        by rw [natural_eq digits]; rfl⟩

theorem exponentText_of_splitExponent? {e : Char} {tail ds : List Char} {negative : Bool}
    (letter : e ∈ ['e', 'E']) (split : splitExponent? tail = some (negative, ds)) :
    ExponentText (e :: tail) (signed negative (natural ds)) := by
  unfold splitExponent? at split
  split at split
  all_goals
    obtain ⟨rfl, rfl, nonempty, digits⟩ := of_digitsOnly? split
    rw [natural_eq digits]
  · exact .plus letter nonempty digits
  · exact .minus letter nonempty digits
  · exact .unsigned letter nonempty digits

theorem head?_whole_isDigit (x : PlainNumeral) {c : Char} {rest : List Char}
    (first : (x.whole ++ rest).head? = some c) : c.isDigit := by
  rw [List.head?_append_of_ne_nil _ x.whole_ne_nil] at first
  exact x.whole_digits c (List.mem_of_head? first)

/-- The parts of a plain numeral and of the exponent that `cs` spells behind it. -/
def withExponent? (x : PlainNumeral) : List Char → Option NumberText
  | [] => some ⟨x.negative, x.whole, x.fraction, none⟩
  | c :: cs =>
    if c ∈ ['e', 'E'] then
      (splitExponent? cs).map fun e => ⟨x.negative, x.whole, x.fraction, some e⟩
    else none

/-- What stands behind a plain numeral is left for the exponent. -/
theorem split?_chars (x : PlainNumeral) {e : List Char} (stops : Stops e)
    (noPoint : e.head? ≠ some '.') : split? (x.chars ++ e) = withExponent? x e := by
  have unsigned : (x.whole ++ ((if x.fraction = [] then [] else '.' :: x.fraction) ++ e)).head? ≠
      some '-' := by
    intro sign
    exact absurd (head?_whole_isDigit x sign) (by decide)
  have point : Stops ((if x.fraction = [] then [] else '.' :: x.fraction) ++ e) := by
    split
    · exact stops
    · intro c first
      cases first
      decide
  have canonical : ¬ (x.whole.head? = some '0' ∧ x.whole ≠ ['0']) := by
    rintro ⟨zero, longer⟩
    exact longer (x.canonical zero)
  rw [PlainNumeral.chars, List.append_assoc, List.append_assoc]
  simp only [split?, splitSign_append x.negative unsigned,
    splitDigits?_append x.whole_ne_nil x.whole_digits point, Option.bind_eq_bind, Option.bind_some,
    if_neg canonical, splitFraction?_append x.fraction_digits stops noPoint]
  cases e with
  | nil => rfl
  | cons c cs =>
      by_cases lower : c = 'e'
      · rw [lower]
        rfl
      · by_cases upper : c = 'E'
        · rw [upper]
          rfl
        · simp [withExponent?, lower, upper]

/-- Only a plain numeral, maybe with an exponent behind it, is split. -/
theorem of_split? {cs : List Char} {parts : NumberText} (split : split? cs = some parts) :
    ∃ x e, cs = PlainNumeral.chars x ++ e ∧ withExponent? x e = some parts := by
  have sign := splitSign_eq cs
  simp only [split?, Option.bind_eq_bind, Option.bind_eq_some_iff, Prod.exists] at split
  obtain ⟨whole, behindWhole, wholeSplit, split⟩ := split
  split at split
  · cases split
  · rename_i canonical
    simp only [Option.bind_eq_some_iff, Prod.exists] at split
    obtain ⟨fraction, behindFraction, fractionSplit, split⟩ := split
    obtain ⟨front, nonempty, wholeDigits⟩ := of_splitDigits? wholeSplit
    obtain ⟨point, fractionDigits⟩ := of_splitFraction? fractionSplit
    let x : PlainNumeral :=
      { negative := (splitSign cs).1
        whole := whole
        fraction := fraction
        whole_ne_nil := nonempty
        whole_digits := wholeDigits
        fraction_digits := fractionDigits
        canonical := fun zero => by
          by_contra longer
          exact canonical ⟨zero, longer⟩ }
    refine ⟨x, behindFraction, ?_, ?_⟩
    · rw [sign, front, point, PlainNumeral.chars, List.append_assoc, List.append_assoc]
    · cases behindFraction with
      | nil => exact split
      | cons c cs =>
          by_cases lower : c = 'e'
          · rw [lower] at split ⊢
            exact split
          · by_cases upper : c = 'E'
            · rw [upper] at split ⊢
              exact split
            · simp [lower, upper] at split

theorem natural_parts (x : PlainNumeral) :
    natural (x.whole ++ x.fraction) = Nat.ofDigitChars 10 (x.whole ++ x.fraction) 0 :=
  natural_eq (List.forall_mem_append.mpr ⟨x.whole_digits, x.fraction_digits⟩)

/-- A number is whole unless it is written with a fraction or an exponent. -/
theorem scalar?_eq (x : PlainNumeral) (exponent : Option (Bool × List Char)) :
    scalar? ⟨x.negative, x.whole, x.fraction, exponent⟩ =
      if x.fraction = [] ∧ exponent = none then
        if x.whole.length ≤ maxDecimalDigits then
          some (.int (signed x.negative (Nat.ofDigitChars 10 x.whole 0)))
        else none
      else some (doubleOf x (exponent.elim 0 fun e => signed e.1 (natural e.2))) := by
  have whole := natural_eq x.whole_digits
  have parts := natural_parts x
  unfold scalar? doubleOf
  rcases fraction : x.fraction with _ | ⟨c, cs⟩ <;> rw [fraction] at parts <;>
    rcases exponent with _ | ⟨negative, ds⟩
  · simp only [whole, and_self, if_true]
  · simp only [parts, reduceCtorEq, and_false, if_false, Option.elim_some]
  · simp only [parts, reduceCtorEq, false_and, if_false, Option.elim_none]
  · simp only [parts, reduceCtorEq, and_false, if_false, Option.elim_some]

end NumberText

open NumberText

theorem not_split?_constant : ∀ entry ∈ constants, split? entry.1.toList = none := by
  decide

theorem ofWord?_of_constant :
    ∀ entry ∈ constants, Scalar.ofWord? entry.1.toList = some entry.2 := by
  decide

theorem ofWord?_of_split? {w : List Char} {parts : NumberText} (split : split? w = some parts) :
    Scalar.ofWord? w = scalar? parts := by
  have unnamed : constants.find? (fun entry => entry.1.toList = w) = none := by
    rw [List.find?_eq_none]
    intro entry known named
    rw [← of_decide_eq_true named, not_split?_constant entry known] at split
    cases split
  rw [Scalar.ofWord?, unnamed, split]
  rfl

theorem ofWord?_of_wordText {w : List Char} {a : Scalar} (text : WordText w a) :
    Scalar.ofWord? w = some a := by
  have ended : ∀ x : PlainNumeral,
      split? x.chars = some ⟨x.negative, x.whole, x.fraction, none⟩ := by
    intro x
    have split := split?_chars x (e := []) nofun (by decide)
    rwa [List.append_nil] at split
  cases text with
  | constant known => exact ofWord?_of_constant _ known
  | @whole x noFraction short =>
      rw [ofWord?_of_split? (ended x), scalar?_eq, if_pos ⟨noFraction, rfl⟩, if_pos short]
  | @fraction x nonempty =>
      rw [ofWord?_of_split? (ended x), scalar?_eq, if_neg fun none => nonempty none.1]
      rfl
  | @exponent x e scale behind =>
      obtain ⟨c, tail, negative, ds, rfl, letter, split, rfl⟩ := splitExponent?_of_text behind
      have stops : Stops (c :: tail) := by
        intro first same
        cases same
        exact List.all_iff_forall_prop.mp (by decide : ['e', 'E'].all fun e => ¬ e.isDigit) c letter
      have noPoint : (c :: tail).head? ≠ some '.' := by
        intro same
        cases same
        exact absurd letter (by decide)
      have whole : split? (x.chars ++ c :: tail) =
          some ⟨x.negative, x.whole, x.fraction, some (negative, ds)⟩ := by
        rw [split?_chars x stops noPoint, withExponent?, if_pos letter, split]
        rfl
      rw [ofWord?_of_split? whole, scalar?_eq, if_neg fun none => nomatch none.2]
      rfl

theorem wordText_of_ofWord? {w : List Char} {a : Scalar} (read : Scalar.ofWord? w = some a) :
    WordText w a := by
  unfold Scalar.ofWord? at read
  split at read
  · rename_i entry found
    cases read
    have named : entry.1.toList = w := by simpa using List.find?_some found
    rw [← named]
    exact .constant (List.mem_of_find?_eq_some found)
  · obtain ⟨parts, split, read⟩ := Option.bind_eq_some_iff.mp read
    obtain ⟨x, e, rfl, behind⟩ := of_split? split
    cases e with
    | nil =>
        cases behind
        rw [scalar?_eq] at read
        rw [List.append_nil]
        split at read
        · rename_i noFraction
          split at read
          · rename_i short
            cases read
            exact .whole noFraction.1 short
          · cases read
        · rename_i some
          cases read
          exact .fraction fun none => some ⟨none, rfl⟩
    | cons c tail =>
        rw [withExponent?] at behind
        split at behind
        · rename_i letter
          obtain ⟨⟨negative, ds⟩, exponent, rfl⟩ := Option.map_eq_some_iff.mp behind
          rw [scalar?_eq, if_neg fun none => nomatch none.2] at read
          cases read
          exact .exponent (exponentText_of_splitExponent? letter exponent)
        · cases behind

end WalletKit.Json
