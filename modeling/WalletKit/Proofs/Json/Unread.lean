import WalletKit.Proofs.Json.Beginnings

set_option autoImplicit false

namespace WalletKit.Json

open Numeral

/-- Somewhere in the text `n` digits stand together. -/
def HasDigits (s : String) (n : ℕ) : Prop :=
  ∃ ds : List Char, ds <:+: s.toList ∧ (∀ d ∈ ds, d.isDigit) ∧ ds.length = n

theorem Token.digits_of_ofWord {w : List Char} {n : ℕ} (token : Token.ofWord w = .tooLong n) :
    maxDecimalDigits < n ∧ ∃ ds : List Char, ds <:+: w ∧ (∀ d ∈ ds, d.isDigit) ∧ ds.length = n := by
  unfold Token.ofWord at token
  split at token
  · cases token
  · split at token
    · rename_i digits excess
      cases token
      unfold NumberText.excess? at excess
      dsimp only at excess
      split at excess
      · cases excess
      · rename_i many
        split at excess
        · cases excess
        · cases excess
          refine ⟨Nat.lt_of_not_le fun few => many (Or.inl few), _, ?_, ?_, rfl⟩
          · have unsigned := NumberText.splitSign_eq w
            have behind : (NumberText.splitSign w).2 <:+ w := by
              nth_rewrite 2 [unsigned]
              exact List.suffix_append _ _
            exact (List.takeWhile_prefix _).isInfix.trans behind.isInfix
          · intro d inside
            exact (NumberText.isDigit_iff d).mp (List.mem_takeWhile_imp inside)
    · cases token

theorem Mode.begun_start (c : Char) (cs : List Char) :
    (Mode.start c).2.begun ++ cs <:+: c :: cs := by
  have later : [] ++ cs <:+: c :: cs := (List.suffix_cons c cs).isInfix
  unfold Mode.start
  split
  · exact later
  · split
    · rename_i quote
      rw [quote]
      exact List.infix_rfl
    · split
      · exact later
      · split
        · exact List.infix_rfl
        · exact later

/-- A scan loses no character of the token in which it stands. -/
theorem Mode.begun_advance (mode : Mode) (c : Char) (cs : List Char) :
    (mode.advance c).2.begun ++ cs <:+: mode.begun ++ c :: cs := by
  cases mode with
  | between => exact begun_start c cs
  | word seen =>
      rw [Mode.advance]
      split
      · rw [begun, begun, List.reverse_cons, List.append_assoc, List.singleton_append]
      · exact (begun_start c cs).trans (List.suffix_append _ _).isInfix
  | text seen escaped =>
      have kept (escaped : Bool) : (Mode.text (c :: seen) escaped).begun ++ cs <:+:
          '"' :: seen.reverse ++ c :: cs := by
        rw [begun, List.reverse_cons, List.cons_append, List.append_assoc]
        exact List.infix_rfl
      have later : [] ++ cs <:+: '"' :: seen.reverse ++ c :: cs :=
        ((List.suffix_cons c cs).trans (List.suffix_append _ _)).isInfix
      cases escaped with
      | true => exact kept false
      | false =>
          rw [Mode.advance]
          split
          · exact later
          · exact kept _

theorem Mode.tooLong_notMem_start (c : Char) (n : ℕ) : Token.tooLong n ∉ (Mode.start c).1 := by
  have notMark : Token.punctuation? c ≠ some (.tooLong n) := by
    intro mark
    have known := punctuation?_eq_some_iff.mp mark
    simp [punctuation] at known
  unfold Mode.start
  split
  · exact List.not_mem_nil
  · split
    · exact List.not_mem_nil
    · split
      · rename_i token mark
        intro inside
        rw [List.mem_singleton.mp inside] at notMark
        exact notMark mark
      · split <;> simp

theorem Mode.word_of_tooLong_mem_advance {mode : Mode} {c : Char} {n : ℕ}
    (inside : Token.tooLong n ∈ (mode.advance c).1) :
    Token.ofWord mode.begun = .tooLong n := by
  cases mode with
  | between => exact absurd inside (tooLong_notMem_start c n)
  | word seen =>
      rw [Mode.advance] at inside
      split at inside
      · cases inside
      · rcases List.mem_cons.mp inside with token | later
        · exact token.symm
        · exact absurd later (tooLong_notMem_start c n)
  | text seen escaped =>
      cases escaped with
      | true => cases inside
      | false =>
          rw [Mode.advance] at inside
          split at inside
          · rw [List.mem_singleton, Token.ofQuoted] at inside
            split at inside <;> cases inside
          · cases inside

theorem digits_of_tooLong_mem_scan {mode : Mode} {cs : List Char} {n : ℕ}
    (inside : Token.tooLong n ∈ scan mode cs) :
    maxDecimalDigits < n ∧
      ∃ ds : List Char, ds <:+: mode.begun ++ cs ∧ (∀ d ∈ ds, d.isDigit) ∧ ds.length = n := by
  induction cs generalizing mode with
  | nil =>
      rw [List.append_nil]
      apply Token.digits_of_ofWord
      cases mode with
      | between => cases inside
      | word seen => exact (List.mem_singleton.mp inside).symm
      | text seen escaped => cases List.mem_singleton.mp inside
  | cons c cs ih =>
      rw [scan_cons, List.mem_append] at inside
      rcases inside with word | later
      · obtain ⟨many, ds, part, digits⟩ :=
          Token.digits_of_ofWord (Mode.word_of_tooLong_mem_advance word)
        exact ⟨many, ds, part.trans (List.prefix_append _ _).isInfix, digits⟩
      · obtain ⟨many, ds, part, digits⟩ := ih later
        exact ⟨many, ds, part.trans (mode.begun_advance c cs), digits⟩

namespace State

theorem token_of_tooManyDigits {limit n : ℕ} {s : State} {token : Token}
    (failed : s.step limit token = .error (.tooManyDigits n)) : token = .tooLong n := by
  have begun {stack : List Frame}
      (failed : beginValue limit stack token = .error (.tooManyDigits n)) :
      token = .tooLong n := by
    unfold beginValue at failed
    split at failed
    · cases failed
    · cases failed
      rfl
    · split at failed <;> cases failed
    · split at failed <;> cases failed
    · cases failed
  unfold step at failed
  split at failed
  · exact begun failed
  · cases failed
  · exact begun failed
  · cases failed
  · cases failed
  · cases failed
  · cases failed
  · unfold endValue at failed
    split at failed <;> cases failed
  · cases failed

theorem tooLong_mem_of_steps {limit n : ℕ} {s : State} {tokens : List Token}
    (failed : s.steps limit tokens = .error (.tooManyDigits n)) : Token.tooLong n ∈ tokens := by
  induction tokens generalizing s with
  | nil => cases failed
  | cons token tokens ih =>
      rw [steps_cons] at failed
      cases first : s.step limit token with
      | error failure =>
          rw [first] at failed
          cases failed
          rw [token_of_tooManyDigits first]
          exact List.mem_cons_self
      | ok next =>
          rw [first] at failed
          exact List.mem_cons_of_mem token (ih failed)

end State

theorem digits_of_tooManyDigits {limit : ℕ} {s : String} {n : ℕ}
    (failed : read limit s = .error (.tooManyDigits n)) : maxDecimalDigits < n ∧ HasDigits s n := by
  rw [read_eq] at failed
  cases stepped : State.steps limit {} (scan .between s.toList) with
  | error failure =>
      rw [stepped] at failed
      cases failed
      exact digits_of_tooLong_mem_scan (State.tooLong_mem_of_steps stepped)
  | ok last =>
      rw [stepped] at failed
      have refused : last.result = .error (.tooManyDigits n) := failed
      unfold State.result at refused
      split at refused <;> cases refused

/-- All that can come of reading a text. -/
inductive Reading (limit : ℕ) (s : String) : Except Failure Value → Prop where
  | spelled {v : Value} (shallow : ¬ BeginsTooDeep limit s) (spells : Spells s v) :
    Reading limit s (.ok v)
  | tooDeep (container : Container) (deep : BeginsTooDeep limit s) :
    Reading limit s (.error (.tooDeep container))
  | tooManyDigits {n : ℕ} (shallow : ¬ BeginsTooDeep limit s) (nothing : ¬ ∃ v, Spells s v)
    (many : maxDecimalDigits < n) (digits : HasDigits s n) :
    Reading limit s (.error (.tooManyDigits n))
  | unreadable (shallow : ¬ BeginsTooDeep limit s) (nothing : ¬ ∃ v, Spells s v) :
    Reading limit s (.error .unreadable)

theorem read_of_spells {limit : ℕ} {s : String} {v : Value} (shallow : ¬ BeginsTooDeep limit s)
    (spells : Spells s v) : read limit s = .ok v := by
  rw [← read_tooDeep_iff] at shallow
  rw [read_eq_ok_iff]
  refine ⟨spells, Nat.le_of_not_lt ?_⟩
  intro deep
  exact shallow (tooDeep_of_spells spells deep)

theorem reading_read (limit : ℕ) (s : String) : Reading limit s (read limit s) := by
  by_cases deep : BeginsTooDeep limit s
  · obtain ⟨container, failed⟩ := (read_tooDeep_iff limit s).mpr deep
    rw [failed]
    exact .tooDeep container deep
  · by_cases something : ∃ v, Spells s v
    · obtain ⟨v, spells⟩ := something
      rw [read_of_spells deep spells]
      exact .spelled deep spells
    · cases done : read limit s with
      | ok v => exact absurd ⟨v, (read_eq_ok_iff.mp done).1⟩ something
      | error failure =>
          cases failure with
          | unreadable => exact .unreadable deep something
          | tooDeep container =>
              exact absurd ((read_tooDeep_iff limit s).mp ⟨container, done⟩) deep
          | tooManyDigits n =>
              obtain ⟨many, digits⟩ := digits_of_tooManyDigits done
              exact .tooManyDigits deep something many digits

/-- A container ends with the bracket that closes it, and every other value is a scalar. -/
theorem getLast?_of_derives {tokens : List Token} {v : Value} (derives : Derives tokens v) :
    ∃ last, tokens.getLast? = some last ∧
      (last.IsScalar ∧ v.isContainer = false ∨ last = .closeArray ∨ last = .closeObject) := by
  cases derives with
  | scalar a => exact ⟨.scalar a, rfl, Or.inl ⟨⟨a, rfl⟩, rfl⟩⟩
  | array parts each =>
      refine ⟨.closeArray, ?_, Or.inr (Or.inl rfl)⟩
      rw [← List.cons_append, List.getLast?_concat]
  | object parts each =>
      refine ⟨.closeObject, ?_, Or.inr (Or.inr rfl)⟩
      rw [← List.cons_append, List.getLast?_concat]

theorem scan_replicate_bracket (n : ℕ) :
    scan .between (List.replicate n '[') = List.replicate n .openArray := by
  induction n with
  | zero => rfl
  | succ n ih =>
      have known : ('[', Token.openArray) ∈ punctuation := List.mem_cons_self
      rw [List.replicate_succ, List.replicate_succ, scan_punctuation known, ih]

/-- Arrays that are opened and never closed spell nothing. -/
theorem not_spells_brackets (n : ℕ) (v : Value) :
    ¬ Spells (String.ofList (List.replicate n '[')) v := by
  rw [spells_iff_derives_scan, String.toList_ofList, scan_replicate_bracket]
  intro derives
  obtain ⟨last, ends, other⟩ := getLast?_of_derives derives
  rw [List.eq_of_mem_replicate (List.mem_of_getLast? ends)] at other
  rcases other with ⟨⟨a, opening⟩, -⟩ | opening | opening
  all_goals cases opening

theorem tooDeep_of_brackets {limit n : ℕ} (many : limit < n) :
    ∃ container, read limit (String.ofList (List.replicate n '[')) =
      .error (.tooDeep container) := by
  rw [read_tooDeep_iff]
  apply beginsTooDeep_of_brackets many
  rw [String.toList_ofList]

end WalletKit.Json
