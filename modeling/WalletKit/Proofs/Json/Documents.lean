import WalletKit.Proofs.Json.Parsing

set_option autoImplicit false

namespace WalletKit.Json

/-- No more than `n` containers of the value lie in one another. -/
inductive Value.NestedWithin : ℕ → Value → Prop where
  | scalar (n : ℕ) (a : Scalar) : NestedWithin n (.scalar a)
  | array {n : ℕ} {items : List Value} (each : ∀ item ∈ items, NestedWithin n item) :
    NestedWithin (n + 1) (.array items)
  | object {n : ℕ} {members : List (Text × Value)}
    (each : ∀ member ∈ members, NestedWithin n member.2) : NestedWithin (n + 1) (.object members)

/-- How many containers are open behind tokens, `depth` being open before them. -/
def depthBehindAll (depth : ℕ) (tokens : List Token) : ℕ := tokens.foldl Token.depthBehind depth

theorem peak_append (depth : ℕ) (front back : List Token) :
    peak depth (front ++ back) =
      max (peak depth front) (peak (depthBehindAll depth front) back) := by
  induction front generalizing depth with
  | nil => exact (max_eq_right (le_peak depth back)).symm
  | cons token front ih =>
      rw [List.cons_append, peak, ih, peak, max_assoc]
      rfl

theorem depthBehindAll_le_peak (depth : ℕ) (tokens : List Token) :
    depthBehindAll depth tokens ≤ peak depth tokens := by
  have split := peak_append depth tokens []
  rw [List.append_nil] at split
  rw [split]
  exact le_max_right _ _

theorem State.level_of_runs {s last : State} {tokens : List Token} (runs : Runs s tokens last) :
    last.level = depthBehindAll s.level tokens := by
  induction runs with
  | nil s => rfl
  | cons moves rest ih =>
      rw [ih, level_of_moves moves]
      rfl

theorem isDocument_of_read {limit : ℕ} {s : String} {v : Value} (done : read limit s = .ok v) :
    isDocument limit (some s) = .ok v.isContainer := by
  rw [isDocument, readGiven, done]
  rfl

theorem isDocument_of_tooDeep {limit : ℕ} {s : String} {container : Container}
    (failed : read limit s = .error (.tooDeep container)) :
    isDocument limit (some s) = .error (.tooDeep container) := by
  rw [isDocument, readGiven, failed]
  rfl

theorem isDocument_eq_true_iff {limit : ℕ} {s : String} :
    isDocument limit (some s) = .ok true ↔ ∃ v, read limit s = .ok v ∧ v.isContainer = true := by
  constructor
  · intro document
    cases done : read limit s with
    | ok v =>
        rw [isDocument_of_read done] at document
        exact ⟨v, rfl, Except.ok.inj document⟩
    | error failure =>
        rw [isDocument, readGiven, done] at document
        cases failure <;> cases document
  · intro given
    obtain ⟨v, done, container⟩ := given
    rw [isDocument_of_read done, container]

theorem isContainer_iff (v : Value) :
    v.isContainer = true ↔ (∃ items, v = .array items) ∨ ∃ members, v = .object members := by
  cases v <;> simp [Value.isContainer]

theorem isDocument_of_not_tooDeep {limit : ℕ} {s : String}
    (shallow : ¬ ∃ container, read limit s = .error (.tooDeep container)) :
    ∃ answer, isDocument limit (some s) = .ok answer ∧
      (answer = true ↔
        ∃ v, Spells s v ∧ ((∃ items, v = .array items) ∨ ∃ members, v = .object members)) := by
  rcases readGiven_of_not_tooDeep shallow with ⟨v, spells, done⟩ | ⟨unreadable, done⟩
  · refine ⟨v.isContainer, by rw [isDocument, done]; rfl, (isContainer_iff v).trans ?_⟩
    constructor
    · exact fun container => ⟨v, spells, container⟩
    · rintro ⟨w, other, container⟩
      rwa [spells.unique other]
  · refine ⟨false, by rw [isDocument, done]; rfl, iff_of_false Bool.false_ne_true ?_⟩
    rintro ⟨v, spells, -⟩
    exact unreadable ⟨v, spells⟩

/-- Where the host has room for 500 containers every text that spells a value is answered, if it is
not nested deeper than that: a document is what spells an array or an object. No other text is one,
however deep it is nested. -/
theorem documents_spell_containers (limit : ℕ) (room : 500 ≤ limit) :
    (∀ s v, Spells s v → nesting s ≤ 500 →
      ∃ answer, isDocument limit (some s) = .ok answer ∧
        (answer = true ↔ (∃ items, v = .array items) ∨ ∃ members, v = .object members)) ∧
    ∀ s, isDocument limit (some s) = .ok true →
      ∃ v, Spells s v ∧ ((∃ items, v = .array items) ∨ ∃ members, v = .object members) := by
  constructor
  · intro s v spells flat
    have done : read limit s = .ok v := read_eq_ok_iff.mpr ⟨spells, flat.trans room⟩
    exact ⟨v.isContainer, isDocument_of_read done, isContainer_iff v⟩
  · intro s document
    obtain ⟨v, done, container⟩ := isDocument_eq_true_iff.mp document
    exact ⟨v, (read_eq_ok_iff.mp done).1, (isContainer_iff v).mp container⟩

theorem documents_spell_containers_of_member :
    500 ≤ 990 ∧
      Spells "\x7b\"a\": [1, \"\\u0061\"]\x7d"
        (.record [("a", .array [.scalar (.int 1), .text "a"])]) ∧
      nesting "\x7b\"a\": [1, \"\\u0061\"]\x7d" ≤ 500 ∧
      isDocument 990 (some "\x7b\"a\": [1, \"\\u0061\"]\x7d") = .ok true := by
  have room : 500 ≤ 990 := by decide
  have found : scan .between "\x7b\"a\": [1, \"\\u0061\"]\x7d".toList =
      [.openObject, .scalar (.text (Text.ofString "a")), .colon, .openArray, .scalar (.int 1),
        .comma, .scalar (.text (Text.ofString "a")), .closeArray, .closeObject] := by decide +kernel
  have spells : Spells "\x7b\"a\": [1, \"\\u0061\"]\x7d"
      (.record [("a", .array [.scalar (.int 1), .text "a"])]) :=
    spells_of_steps 990 found rfl
  have flat : nesting "\x7b\"a\": [1, \"\\u0061\"]\x7d" ≤ 500 := by decide
  obtain ⟨answer, answered, container⟩ := (documents_spell_containers 990 room).1 _ _ spells flat
  rw [container.mpr (Or.inr ⟨_, rfl⟩)] at answered
  obtain ⟨v, same, _⟩ := (documents_spell_containers 990 room).2 _ answered
  exact ⟨room, same.unique spells ▸ same, flat, answered⟩

/-- An object with two members of one key: an array that is nested `n` deep, and the number 1. -/
def overwritten (n : ℕ) : String :=
  String.ofList (['\x7b', '"', 'a', '"', ':'] ++ (List.replicate n '[' ++ List.replicate n ']') ++
    [',', '"', 'a', '"', ':', '1', '\x7d'])

theorem Lexemes.append {front back : List Char} {first second : List Token}
    (before : Lexemes front first) (behind : Lexemes back second) :
    Lexemes (front ++ back) (first ++ second) := by
  induction before with
  | nil => exact behind
  | blank space rest ih => exact .blank space ih
  | token text rest ih =>
      rw [List.append_assoc]
      exact .token text ih

theorem lexemes_replicate {c : Char} {token : Token} (known : (c, token) ∈ punctuation) (n : ℕ) :
    Lexemes (List.replicate n c) (List.replicate n token) := by
  induction n with
  | zero => exact .nil
  | succ n ih => exact .token (.punctuation known) ih

theorem derives_replicate (n : ℕ) :
    ∃ v, Derives (List.replicate (n + 1) .openArray ++ List.replicate (n + 1) .closeArray) v := by
  induction n with
  | zero => exact ⟨_, .array [] (List.forall_mem_nil _)⟩
  | succ n ih =>
      obtain ⟨v, derives⟩ := ih
      refine ⟨.array [v], ?_⟩
      have around := Derives.array [(_, v)] (List.forall_mem_singleton.mpr derives)
      rw [List.map_singleton, List.intercalate_singleton, List.append_assoc,
        ← List.replicate_succ'] at around
      exact around

theorem le_deepest_replicate (n depth : ℕ) (cs : List Char) :
    depth + n ≤ deepest .outside depth (List.replicate n '[' ++ cs) := by
  induction n generalizing depth with
  | zero => exact le_deepest _ _ _
  | succ n ih =>
      have inner : depth + 1 + n ≤ deepest .outside (depth + 1) (List.replicate n '[' ++ cs) :=
        ih (depth + 1)
      rw [Nat.add_right_comm] at inner
      exact le_max_of_le_right inner

theorem spells_overwritten (n : ℕ) :
    Spells (overwritten (n + 1)) (.record [("a", .scalar (.int 1))]) := by
  obtain ⟨v, derives⟩ := derives_replicate n
  have key : TokenText ['"', 'a', '"'] (.scalar (.text (Text.ofString "a"))) :=
    .quoted (.cons (.plain (by decide) (by decide) (by decide)) .nil)
  have one : TokenText ['1'] (.scalar (.int 1)) := by
    have text := WordText.whole
      (x := ⟨false, ['1'], [], by decide, List.all_eq_true.mp (by decide),
        List.forall_mem_nil _, by decide⟩) rfl (by decide)
    exact .word text
  have front : Lexemes ['\x7b', '"', 'a', '"', ':']
      [.openObject, .scalar (.text (Text.ofString "a")), .colon] :=
    .token (w := ['\x7b']) (.punctuation (by decide))
      (.token (w := ['"', 'a', '"']) key (.token (w := [':']) (.punctuation (by decide)) .nil))
  have back : Lexemes [',', '"', 'a', '"', ':', '1', '\x7d']
      [.comma, .scalar (.text (Text.ofString "a")), .colon, .scalar (.int 1), .closeObject] :=
    .token (w := [',']) (.punctuation (by decide))
      (.token (w := ['"', 'a', '"']) key (.token (w := [':']) (.punctuation (by decide))
        (.token (w := ['1']) one (.token (w := ['\x7d']) (.punctuation (by decide)) .nil))))
  have opening := lexemes_replicate (by decide : ('[', Token.openArray) ∈ punctuation) (n + 1)
  have closing := lexemes_replicate (by decide : (']', Token.closeArray) ∈ punctuation) (n + 1)
  have object := Derives.object
    [(Text.ofString "a", _, v), (Text.ofString "a", _, .scalar (.int 1))]
    (List.forall_mem_cons.mpr ⟨derives, List.forall_mem_singleton.mpr (.scalar _)⟩)
  refine ⟨_, ?_, object⟩
  rw [overwritten, String.toList_ofList]
  have all := (front.append (opening.append closing)).append back
  simpa [memberTokens] using all

theorem lt_nesting_overwritten (n : ℕ) : n < nesting (overwritten n) := by
  have front : ∀ cs, deepest .outside 1 cs ≤
      deepest .outside 0 (['\x7b', '"', 'a', '"', ':'] ++ cs) := by
    intro cs
    have unfolded : deepest .outside 0 (['\x7b', '"', 'a', '"', ':'] ++ cs) =
        max 0 (max 1 (max 1 (max 1 (max 1 (deepest .outside 1 cs))))) := rfl
    omega
  rw [nesting, overwritten, String.toList_ofList, List.append_assoc, List.append_assoc]
  refine lt_of_lt_of_le ?_ (front _)
  exact (Nat.lt_one_add_iff.mpr le_rfl).trans_le (le_deepest_replicate n 1 _)

/-- Hidden under a repeated key an array keeps a text from being answered, however flat the value
is. -/
theorem overwritten_not_answered :
    Spells (overwritten 4000) (.record [("a", .scalar (.int 1))]) ∧
      Value.NestedWithin 500 (.record [("a", .scalar (.int 1))]) ∧
      ∀ limit < 4000, ∃ container,
        isDocument limit (some (overwritten 4000)) = .error (.tooDeep container) := by
  have spells := spells_overwritten 3999
  refine ⟨spells, .object (List.forall_mem_singleton.mpr (.scalar _ _)), ?_⟩
  intro limit room
  have deep : limit < nesting (overwritten 4000) := room.trans (lt_nesting_overwritten 4000)
  obtain ⟨container, failed⟩ := tooDeep_of_spells spells deep
  exact ⟨container, isDocument_of_tooDeep failed⟩

end WalletKit.Json
