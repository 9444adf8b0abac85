import WalletKit.Proofs.Json.Documents

set_option autoImplicit false

/- A text is read in one pass, so what counts is how it begins: a beginning that could still become
a JSON text and opens one container too many ends the reading, whatever follows it. -/
namespace WalletKit.Json

/-- The tokens that a scan from `mode` on completes within `cs`. -/
def found : Mode → List Char → List Token
  | _, [] => []
  | mode, c :: cs => (mode.advance c).1 ++ found (mode.advance c).2 cs

/-- Where a scan that stands in `mode` stands behind `cs`. -/
def Mode.behind (mode : Mode) (cs : List Char) : Mode :=
  cs.foldl (fun mode c => (mode.advance c).2) mode

theorem scan_append (mode : Mode) (front back : List Char) :
    scan mode (front ++ back) = found mode front ++ scan (mode.behind front) back := by
  induction front generalizing mode with
  | nil => rfl
  | cons c front ih =>
      rw [List.cons_append, scan_cons, ih, found, List.append_assoc]
      rfl

theorem peak_found (mode : Mode) (depth : ℕ) (cs : List Char) :
    peak depth (found mode cs) = deepest mode.quoting depth cs := by
  have whole := scan_append mode cs []
  rw [List.append_nil] at whole
  rw [← peak_scan, whole, peak_append, scan, peak_finish,
    max_eq_left (depthBehindAll_le_peak depth _)]

theorem peak_found_between (cs : List Char) :
    peak 0 (found .between cs) = nesting (String.ofList cs) := by
  rw [peak_found, nesting, String.toList_ofList]
  rfl

theorem start_cases (c : Char) :
    (Mode.start c).1 = [] ∨ ∃ token, Mode.start c = ([token], .between) := by
  unfold Mode.start
  split
  · exact Or.inl rfl
  · split
    · exact Or.inl rfl
    · split
      · exact Or.inr ⟨_, rfl⟩
      · split
        · exact Or.inl rfl
        · exact Or.inr ⟨_, rfl⟩

/-- A character completes a word or a quoted text, which opens nothing, and behind it at most the
token that it is itself. -/
theorem advance_cases (mode : Mode) (c : Char) :
    ∃ flat : List Token, (∀ depth, peak depth flat = depth) ∧
      ((mode.advance c).1 = flat ∨ ∃ token, mode.advance c = (flat ++ [token], .between)) := by
  have nothing : ∀ depth, peak depth [] = depth := fun _ => rfl
  cases mode with
  | between => exact ⟨[], nothing, start_cases c⟩
  | word seen =>
      rw [Mode.advance]
      split
      · exact ⟨[], nothing, Or.inl rfl⟩
      · refine ⟨[Token.ofWord seen.reverse], ?_, ?_⟩
        · intro depth
          exact peak_cons_of_flat (Token.depthBehind_ofWord depth _) []
        · rcases start_cases c with none | ⟨token, one⟩
          · exact Or.inl (congrArg (Token.ofWord seen.reverse :: ·) none)
          · exact Or.inr ⟨token, by rw [one]; rfl⟩
  | text seen escaped =>
      cases escaped with
      | true => exact ⟨[], nothing, Or.inl rfl⟩
      | false =>
          rw [Mode.advance]
          split
          · refine ⟨[Token.ofQuoted seen.reverse], ?_, Or.inl rfl⟩
            intro depth
            exact peak_cons_of_flat (Token.depthBehind_ofQuoted depth _) []
          · exact ⟨[], nothing, Or.inl rfl⟩

namespace State

theorem ne_tooDeep_of_flat {limit : ℕ} {s : State} {flat : List Token} {container : Container}
    (within : s.level ≤ limit) (opensNothing : peak s.level flat = s.level) :
    s.steps limit flat ≠ .error (.tooDeep container) := by
  intro failed
  have deep := limit_lt_of_steps within failed
  rw [opensNothing] at deep
  exact absurd within (Nat.not_le_of_lt deep)

/-- Of the tokens that one character completes only the last can be one too many. -/
theorem runs_of_tooDeep_advance {limit : ℕ} {s : State} {mode : Mode} {c : Char}
    {container : Container} (within : s.level ≤ limit)
    (failed : s.steps limit (mode.advance c).1 = .error (.tooDeep container)) :
    (mode.advance c).2 = .between ∧
      ∃ next, Runs s (mode.advance c).1 next ∧ limit < next.level := by
  obtain ⟨flat, opensNothing, only | ⟨token, one⟩⟩ := advance_cases mode c
  · rw [only] at failed
    exact absurd failed (ne_tooDeep_of_flat within (opensNothing _))
  · rw [one] at failed ⊢
    refine ⟨rfl, ?_⟩
    rw [steps_append] at failed
    cases first : s.steps limit flat with
    | error failure =>
        rw [first] at failed
        cases failed
        exact absurd first (ne_tooDeep_of_flat within (opensNothing _))
    | ok middle =>
        rw [first] at failed
        have stepped : middle.step limit token = .error (.tooDeep container) :=
          (steps_singleton limit middle token).symm.trans failed
        obtain ⟨next, moves, deep⟩ := moves_of_tooDeep stepped
        have before := ((steps_eq_ok_iff within).mp first).1
        exact ⟨next, before.append (.single moves), deep⟩

/-- A run over the tokens of a text that is given up for its nesting has taken in a beginning of the
text up to the token that was one too many. -/
theorem exists_beginning_of_tooDeep {limit : ℕ} {s : State} {mode : Mode} {cs : List Char}
    {container : Container} (within : s.level ≤ limit)
    (failed : s.steps limit (scan mode cs) = .error (.tooDeep container)) :
    ∃ front next, front <+: cs ∧ mode.behind front = .between ∧
      Runs s (found mode front) next ∧ limit < next.level := by
  induction cs generalizing mode s with
  | nil => exact absurd failed (ne_tooDeep_of_flat within (peak_finish mode _))
  | cons c cs ih =>
      rw [scan_cons, steps_append] at failed
      cases first : s.steps limit (mode.advance c).1 with
      | error failure =>
          rw [first] at failed
          cases failed
          obtain ⟨between, next, runs, deep⟩ := runs_of_tooDeep_advance within first
          refine ⟨[c], next, List.prefix_append [c] cs, between, ?_, deep⟩
          rwa [found, found, List.append_nil]
      | ok middle =>
          rw [first] at failed
          obtain ⟨runs, flat⟩ := (steps_eq_ok_iff within).mp first
          have room : middle.level ≤ limit := by
            rw [level_of_runs runs]
            exact (depthBehindAll_le_peak _ _).trans flat
          obtain ⟨front, next, beginning, between, behind, deep⟩ := ih room failed
          exact ⟨c :: front, next, List.cons_prefix_cons.mpr ⟨rfl, beginning⟩, between,
            runs.append behind, deep⟩

/-- Behind a complete value the open containers can be closed one after another. -/
theorem exists_closing (v : Value) (stack : List Frame) :
    ∃ back w, Runs ⟨stack, .complete v⟩ (scan .between back) ⟨[], .complete w⟩ := by
  induction stack generalizing v with
  | nil => exact ⟨[], v, .nil _⟩
  | cons frame stack ih =>
      cases frame with
      | array items =>
          obtain ⟨back, w, runs⟩ := ih (.array (v :: items).reverse)
          refine ⟨']' :: back, w, ?_⟩
          rw [scan_punctuation (by decide : (']', Token.closeArray) ∈ punctuation)]
          exact .cons (.closeArray stack items v) runs
      | object members key =>
          obtain ⟨back, w, runs⟩ := ih (.object (Members.ofPairs ((key, v) :: members).reverse))
          refine ⟨'\x7d' :: back, w, ?_⟩
          rw [scan_punctuation (by decide : ('\x7d', Token.closeObject) ∈ punctuation)]
          exact .cons (.closeObject stack members key v) runs

theorem scan_empty_text (cs : List Char) :
    scan .between ('"' :: '"' :: cs) = .scalar (.text []) :: scan .between cs :=
  scan_quoted .nil cs

/-- Where a value or a key is due the empty text can stand. -/
theorem exists_completion (s : State) :
    ∃ back w, Runs s (scan .between back) ⟨[], .complete w⟩ := by
  obtain ⟨stack, stage⟩ := s
  cases stage with
  | value =>
      obtain ⟨back, w, runs⟩ := exists_closing (.scalar (.text [])) stack
      refine ⟨'"' :: '"' :: back, w, ?_⟩
      rw [scan_empty_text]
      exact .cons (.value (.scalar _)) runs
  | firstItem =>
      obtain ⟨back, w, runs⟩ := exists_closing (.array []) stack
      refine ⟨']' :: back, w, ?_⟩
      rw [scan_punctuation (by decide : (']', Token.closeArray) ∈ punctuation)]
      exact .cons (.emptyArray stack) runs
  | firstKey =>
      obtain ⟨back, w, runs⟩ := exists_closing (.object []) stack
      refine ⟨'\x7d' :: back, w, ?_⟩
      rw [scan_punctuation (by decide : ('\x7d', Token.closeObject) ∈ punctuation)]
      exact .cons (.emptyObject stack) runs
  | nextKey members =>
      obtain ⟨back, w, runs⟩ := exists_closing (.scalar (.text [])) (.object members [] :: stack)
      refine ⟨'"' :: '"' :: ':' :: '"' :: '"' :: back, w, ?_⟩
      rw [scan_empty_text, scan_punctuation (by decide : (':', Token.colon) ∈ punctuation),
        scan_empty_text]
      exact .cons (.nextKey stack members []) (.cons (.colon stack members [])
        (.cons (.value (.scalar _)) runs))
  | colon members key =>
      obtain ⟨back, w, runs⟩ := exists_closing (.scalar (.text [])) (.object members key :: stack)
      refine ⟨':' :: '"' :: '"' :: back, w, ?_⟩
      rw [scan_punctuation (by decide : (':', Token.colon) ∈ punctuation), scan_empty_text]
      exact .cons (.colon stack members key) (.cons (.value (.scalar _)) runs)
  | complete v => exact exists_closing v stack

end State

/-- Something can be written behind `front` that makes a JSON text of it. -/
def GoesOn (front : List Char) : Prop := ∃ back v, Spells (String.ofList (front ++ back)) v

/-- The text begins as a JSON text does, and too many containers are open at once in what may be no
more than a part of it. -/
def BeginsTooDeep (limit : ℕ) (s : String) : Prop :=
  ∃ front, front <+: s.toList ∧ GoesOn front ∧ limit < nesting (String.ofList front)

theorem goesOn_of_runs {front : List Char} {next : State}
    (between : Mode.between.behind front = .between)
    (runs : State.Runs {} (found .between front) next) : GoesOn front := by
  obtain ⟨back, v, completion⟩ := next.exists_completion
  refine ⟨back, v, ?_⟩
  rw [spells_iff_derives_scan, String.toList_ofList, scan_append, between, ← State.runs_iff_derives]
  exact runs.append completion

theorem runs_of_goesOn {front : List Char} (goesOn : GoesOn front) :
    ∃ next, State.Runs {} (found .between front) next := by
  obtain ⟨back, v, spells⟩ := goesOn
  rw [spells_iff_derives_scan, String.toList_ofList, scan_append, ← State.runs_iff_derives]
    at spells
  obtain ⟨next, runs, -⟩ := spells.split
  exact ⟨next, runs⟩

theorem read_tooDeep_iff (limit : ℕ) (s : String) :
    (∃ container, read limit s = .error (.tooDeep container)) ↔ BeginsTooDeep limit s := by
  constructor
  · intro given
    obtain ⟨container, failed⟩ := given
    obtain ⟨front, next, beginning, between, runs, deep⟩ :=
      State.exists_beginning_of_tooDeep (Nat.zero_le _) (steps_of_tooDeep failed)
    refine ⟨front, beginning, goesOn_of_runs between runs, ?_⟩
    rw [State.level_of_runs runs] at deep
    rw [← peak_found_between]
    exact deep.trans_le (depthBehindAll_le_peak _ _)
  · intro begins
    obtain ⟨front, ⟨rest, whole⟩, goesOn, deep⟩ := begins
    obtain ⟨next, runs⟩ := runs_of_goesOn goesOn
    rw [← peak_found_between] at deep
    obtain ⟨container, failed⟩ := State.tooDeep_of_runs (Nat.zero_le _) runs deep
    refine ⟨container, ?_⟩
    rw [read_eq, ← whole, scan_append, State.steps_append, failed]
    rfl

/-- Opening brackets can always be closed, so that too many of them are enough. -/
theorem beginsTooDeep_of_brackets {limit n : ℕ} {s : String} (many : limit < n)
    (brackets : List.replicate n '[' <+: s.toList) : BeginsTooDeep limit s := by
  obtain ⟨m, rfl⟩ : ∃ m, n = m + 1 := Nat.exists_eq_succ_of_ne_zero (by omega)
  refine ⟨List.replicate (m + 1) '[', brackets, ?_, ?_⟩
  · obtain ⟨v, derives⟩ := derives_replicate m
    have opening := lexemes_replicate (by decide : ('[', Token.openArray) ∈ punctuation) (m + 1)
    have closing := lexemes_replicate (by decide : (']', Token.closeArray) ∈ punctuation) (m + 1)
    refine ⟨List.replicate (m + 1) ']', v, _, ?_, derives⟩
    rw [String.toList_ofList]
    exact opening.append closing
  · have deepest := le_deepest_replicate (m + 1) 0 []
    rw [List.append_nil, Nat.zero_add] at deepest
    rw [nesting, String.toList_ofList]
    exact many.trans_le deepest

end WalletKit.Json
