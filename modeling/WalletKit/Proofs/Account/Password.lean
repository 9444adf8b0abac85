import Mathlib.Data.List.Perm.Basic
import WalletKit.Account.Password

set_option autoImplicit false

namespace WalletKit.Account

namespace Pattern

/-- The pattern takes some beginning of the text. -/
def Begins (p : Pattern) (cs : List Char) : Prop := ∃ left, left ∈ p.leaves cs

section
variable {holds : Char → Bool} {p q : Pattern} {cs rest : List Char}

theorem mem_leaves_char : rest ∈ (char holds).leaves cs ↔ ∃ c, holds c ∧ cs = c :: rest := by
  cases cs with
  | nil => simp [leaves]
  | cons d cs =>
      have parted : (∃ c, holds c ∧ d :: cs = c :: rest) ↔ holds d ∧ rest = cs := by
        constructor
        · rintro ⟨_, held, same⟩
          cases same
          exact ⟨held, rfl⟩
        · rintro ⟨held, rfl⟩
          exact ⟨d, held, rfl⟩
      rw [parted, leaves]
      split <;> simp_all

theorem mem_drop_rests_cons (count : Nat) (d : Char) :
    rest ∈ (rests holds (d :: cs)).drop count ↔
      count = 0 ∧ rest = d :: cs ∨ holds d ∧ rest ∈ (rests holds cs).drop (count - 1) := by
  rw [rests]
  cases count <;> split <;> simp_all

theorem mem_leaves_atLeast {count : Nat} : rest ∈ (atLeast count holds).leaves cs ↔
    ∃ run, cs = run ++ rest ∧ (∀ c ∈ run, holds c) ∧ count ≤ run.length := by
  rw [leaves]
  induction cs generalizing count with
  | nil => cases count <;> simp [rests]
  | cons d cs ih =>
      rw [mem_drop_rests_cons, ih]
      constructor
      · rintro (⟨rfl, rfl⟩ | ⟨held, run, rfl, each, enough⟩)
        · exact ⟨[], rfl, List.forall_mem_nil _, Nat.le_refl 0⟩
        · refine ⟨d :: run, rfl, List.forall_mem_cons.mpr ⟨held, each⟩, ?_⟩
          rw [List.length_cons]
          omega
      · rintro ⟨run, same, each, enough⟩
        cases run with
        | nil => exact .inl ⟨Nat.le_zero.mp enough, same.symm⟩
        | cons c run =>
            cases same
            rw [List.length_cons] at enough
            obtain ⟨held, each⟩ := List.forall_mem_cons.mp each
            exact .inr ⟨held, run, rfl, each, by omega⟩

theorem mem_leaves_ahead :
    rest ∈ (ahead p).leaves cs ↔ rest = cs ∧ Begins p cs := by
  rw [leaves, Begins]
  split
  · simp_all
  · rename_i some
    rw [List.isEmpty_iff] at some
    simp [List.exists_mem_of_ne_nil _ some]

theorem mem_leaves_textEnd :
    rest ∈ textEnd.leaves cs ↔ rest = cs ∧ (cs = [] ∨ cs = ['\n']) := by
  rw [leaves]
  split <;> simp_all

theorem mem_leaves_seq :
    rest ∈ (seq p q).leaves cs ↔ ∃ mid ∈ p.leaves cs, rest ∈ q.leaves mid := by
  rw [leaves, List.mem_flatMap]

theorem mem_leaves_ahead_seq :
    rest ∈ (seq (ahead p) q).leaves cs ↔ Begins p cs ∧ rest ∈ q.leaves cs := by
  rw [mem_leaves_seq]
  constructor
  · rintro ⟨mid, seen, taken⟩
    obtain ⟨rfl, found⟩ := mem_leaves_ahead.mp seen
    exact ⟨found, taken⟩
  · rintro ⟨found, taken⟩
    exact ⟨cs, mem_leaves_ahead.mpr ⟨rfl, found⟩, taken⟩

theorem mem_leaves_atLeast_textEnd {count : Nat} :
    rest ∈ (seq (atLeast count holds) textEnd).leaves cs ↔
      ∃ run, cs = run ++ rest ∧ (∀ c ∈ run, holds c) ∧ count ≤ run.length ∧
        (rest = [] ∨ rest = ['\n']) := by
  simp only [mem_leaves_seq, mem_leaves_atLeast, mem_leaves_textEnd]
  constructor
  · rintro ⟨_, ⟨run, rfl, each, enough⟩, rfl, final⟩
    exact ⟨run, rfl, each, enough, final⟩
  · rintro ⟨run, rfl, each, enough, final⟩
    exact ⟨rest, ⟨run, rfl, each, enough⟩, rfl, final⟩

end

end Pattern

open Pattern

section
variable {holds : Char → Bool} {cs : List Char}

theorem begins_anywhere_iff (line : ∀ c ∈ cs, isInLine c) :
    Begins (seq (atLeast 0 isInLine) (char holds)) cs ↔ ∃ c ∈ cs, holds c := by
  simp only [Begins, mem_leaves_seq, mem_leaves_atLeast, mem_leaves_char]
  constructor
  · rintro ⟨back, _, ⟨front, rfl, -⟩, c, held, rfl⟩
    exact ⟨c, List.mem_append_right _ List.mem_cons_self, held⟩
  · rintro ⟨c, inside, held⟩
    obtain ⟨front, back, rfl⟩ := List.append_of_mem inside
    refine ⟨back, c :: back, ⟨front, rfl, fun d before => ?_, Nat.zero_le _⟩, c, held, rfl⟩
    exact line d (List.mem_append_left _ before)

/-- The whole text is taken only up to its own end, so a line end that closes it is not allowed. -/
theorem nil_mem_leaves_textEnd_iff {count : Nat} :
    [] ∈ (seq (atLeast count holds) textEnd).leaves cs ↔ count ≤ cs.length ∧ ∀ c ∈ cs, holds c := by
  rw [mem_leaves_atLeast_textEnd]
  constructor
  · rintro ⟨run, rfl, each, enough, -⟩
    rw [List.append_nil]
    exact ⟨enough, each⟩
  · rintro ⟨enough, each⟩
    exact ⟨cs, (List.append_nil cs).symm, each, enough, .inl rfl⟩

theorem begins_textEnd_iff {count : Nat} (line : ∀ c ∈ cs, isInLine c) :
    Begins (seq (atLeast count holds) textEnd) cs ↔ count ≤ cs.length ∧ ∀ c ∈ cs, holds c := by
  constructor
  · rintro ⟨rest, taken⟩
    obtain ⟨run, rfl, each, enough, rfl | rfl⟩ := mem_leaves_atLeast_textEnd.mp taken
    · exact nil_mem_leaves_textEnd_iff.mp taken
    · -- The line end before which the pattern may stop would be a character of the line.
      have ended := line '\n' (List.mem_append_right _ (List.mem_singleton_self _))
      exact absurd ended (by decide)
  · intro full
    exact ⟨[], nil_mem_leaves_textEnd_iff.mpr full⟩

theorem isInLine_of_not_isBlank {c : Char} (ink : ¬ Blank.isBlank c) : isInLine c := by
  have other : c ≠ '\n' := by
    rintro rfl
    exact ink (by decide)
  exact decide_eq_true other

theorem isDigit_iff {c : Char} : c.isDigit ↔ '0' ≤ c ∧ c ≤ '9' :=
  Bool.and_eq_true_iff.trans (and_congr decide_eq_true_iff decide_eq_true_iff)

theorem isUpper_iff {c : Char} : c.isUpper ↔ 'A' ≤ c ∧ c ≤ 'Z' := decide_eq_true_iff

theorem isLower_iff {c : Char} : c.isLower ↔ 'a' ≤ c ∧ c ≤ 'z' :=
  Bool.and_eq_true_iff.trans (and_congr decide_eq_true_iff decide_eq_true_iff)

theorem isAlpha_iff {c : Char} : c.isAlpha ↔ 'a' ≤ c ∧ c ≤ 'z' ∨ 'A' ≤ c ∧ c ≤ 'Z' := by
  rw [← isLower_iff, ← isUpper_iff, or_comm]
  exact Bool.or_eq_true_iff

theorem isSpecial_iff {c : Char} : isSpecial c ↔ c ∈ "$&+,:;=?@#|'<>.^*()%!-".toList :=
  decide_eq_true_iff

/-- What a password needs. -/
structure Acceptable (cs : List Char) : Prop where
  long : 7 ≤ cs.length
  digit : ∃ c ∈ cs, '0' ≤ c ∧ c ≤ '9'
  letter : ∃ c ∈ cs, 'a' ≤ c ∧ c ≤ 'z' ∨ 'A' ≤ c ∧ c ≤ 'Z'
  special : ∃ c ∈ cs, c ∈ "$&+,:;=?@#|'<>.^*()%!-".toList
  unbroken : ∀ c ∈ cs, ¬ Blank.isBlank c

/-- The pattern taken apart: what it looks for ahead, and the run of points that takes the text. -/
theorem isPasswordValid_iff_parts (password : String) : isPasswordValid password ↔
    Begins (seq (atLeast 0 isInLine) (char Char.isDigit)) password.toList ∧
    Begins (seq (atLeast 0 isInLine) (char Char.isAlpha)) password.toList ∧
    Begins (seq (atLeast 0 isInLine) (char isSpecial)) password.toList ∧
    Begins (seq (atLeast 1 (!Blank.isBlank ·)) textEnd) password.toList ∧
    7 ≤ password.toList.length ∧ ∀ c ∈ password.toList, isInLine c := by
  rw [isPasswordValid, matchesAll, decide_eq_true_iff, passwordPattern, somewhere, somewhere,
    somewhere, mem_leaves_ahead_seq, mem_leaves_ahead_seq, mem_leaves_ahead_seq,
    mem_leaves_ahead_seq, nil_mem_leaves_textEnd_iff]

theorem isPasswordValid_iff_of_line {password : String}
    (line : ∀ c ∈ password.toList, isInLine c) :
    isPasswordValid password ↔ Acceptable password.toList := by
  rw [isPasswordValid_iff_parts, begins_anywhere_iff line, begins_anywhere_iff line,
    begins_anywhere_iff line, begins_textEnd_iff line]
  simp only [isDigit_iff, isAlpha_iff, isSpecial_iff, Bool.not_eq_true', ← Bool.not_eq_true]
  constructor
  · rintro ⟨digit, letter, special, ⟨-, unbroken⟩, long, -⟩
    exact ⟨long, digit, letter, special, unbroken⟩
  · rintro ⟨long, digit, letter, special, unbroken⟩
    exact ⟨digit, letter, special, ⟨Nat.le_trans (by decide) long, unbroken⟩, long, line⟩

theorem isPasswordValid_iff (password : String) :
    isPasswordValid password ↔ Acceptable password.toList := by
  constructor
  · intro valid
    -- The run of points has taken the whole text, so the other parts looked ahead in one line.
    obtain ⟨-, -, -, -, -, line⟩ := (isPasswordValid_iff_parts password).mp valid
    exact (isPasswordValid_iff_of_line line).mp valid
  · intro accepted
    have line := fun c inside => isInLine_of_not_isBlank (accepted.unbroken c inside)
    exact (isPasswordValid_iff_of_line line).mpr accepted

theorem Acceptable.perm {cs ds : List Char} (same : cs.Perm ds) (accepted : Acceptable cs) :
    Acceptable ds where
  long := same.length_eq ▸ accepted.long
  digit := by simpa only [same.mem_iff] using accepted.digit
  letter := by simpa only [same.mem_iff] using accepted.letter
  special := by simpa only [same.mem_iff] using accepted.special
  unbroken := by simpa only [same.mem_iff] using accepted.unbroken

theorem Acceptable.cons {cs : List Char} {c : Char} (ink : ¬ Blank.isBlank c)
    (accepted : Acceptable cs) : Acceptable (c :: cs) where
  long := Nat.le_succ_of_le accepted.long
  digit := List.exists_mem_cons_of_exists accepted.digit
  letter := List.exists_mem_cons_of_exists accepted.letter
  special := List.exists_mem_cons_of_exists accepted.special
  unbroken := List.forall_mem_cons.mpr ⟨ink, accepted.unbroken⟩

end

/-- A password is taken by the pattern if and only if it has at least seven characters, a digit, a
letter and a special character among them, and no white space. So the order of its characters makes
no difference, and a character that is not white space can be put in anywhere. -/
theorem password_pattern_is_its_conditions :
    (∀ password, isPasswordValid password ↔ Acceptable password.toList) ∧
    (∀ password other : String, password.toList.Perm other.toList →
      isPasswordValid password = isPasswordValid other) ∧
    ∀ (front back : String) (c : Char), ¬ Blank.isBlank c → isPasswordValid (front ++ back) →
      isPasswordValid (front ++ String.singleton c ++ back) := by
  refine ⟨isPasswordValid_iff, ?_, ?_⟩
  · intro password other same
    rw [Bool.eq_iff_iff, isPasswordValid_iff, isPasswordValid_iff]
    exact ⟨Acceptable.perm same, Acceptable.perm same.symm⟩
  · intro front back c ink valid
    rw [isPasswordValid_iff, String.toList_append] at valid
    rw [isPasswordValid_iff, String.toList_append, String.toList_append, String.toList_singleton,
      List.append_assoc, List.singleton_append]
    exact (valid.cons ink).perm List.perm_middle.symm

/-- A line end behind seven good characters is white space, although the pattern's end may stand
before it. A digit above the line is no digit and does no harm. -/
theorem password_pattern_is_its_conditions_of_eight :
    ¬ isPasswordValid "abc123!\n" ∧ isPasswordValid "abc123!x" ∧
      "abc123!x".toList.Perm "x!321cba".toList ∧ isPasswordValid "x!321cba" ∧
      ¬ Blank.isBlank '¹' ∧ isPasswordValid ("abc" ++ String.singleton '¹' ++ "123!x") := by
  obtain ⟨meaning, permuted, inserted⟩ := password_pattern_is_its_conditions
  have broken : ¬ isPasswordValid "abc123!\n" := by
    rw [meaning]
    exact fun accepted => accepted.unbroken '\n' (by decide) (by decide)
  have valid : isPasswordValid ("abc" ++ "123!x") := by decide
  have same : "abc123!x".toList.Perm "x!321cba".toList := by decide
  have ink : ¬ Blank.isBlank '¹' := by decide
  refine ⟨broken, valid, same, ?_, ink, inserted "abc" "123!x" '¹' ink valid⟩
  rw [← permuted _ _ same]
  exact valid

end WalletKit.Account
