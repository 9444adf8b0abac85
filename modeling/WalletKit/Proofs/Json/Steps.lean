import WalletKit.Proofs.Json.Nesting

set_option autoImplicit false

namespace WalletKit.Json

namespace State

/-- What the first token of a value leads to inside the containers of `stack`. -/
inductive Begins (stack : List Frame) : Token → State → Prop where
  | scalar (a : Scalar) : Begins stack (.scalar a) ⟨stack, .complete (.scalar a)⟩
  | openArray : Begins stack .openArray ⟨stack, .firstItem⟩
  | openObject : Begins stack .openObject ⟨stack, .firstKey⟩

/-- All that a token can do. -/
inductive Moves : State → Token → State → Prop where
  | value {stack : List Frame} {token : Token} {s : State} (begins : Begins stack token s) :
    Moves ⟨stack, .value⟩ token s
  | firstItem {stack : List Frame} {token : Token} {s : State}
    (begins : Begins (.array [] :: stack) token s) : Moves ⟨stack, .firstItem⟩ token s
  | emptyArray (stack : List Frame) :
    Moves ⟨stack, .firstItem⟩ .closeArray ⟨stack, .complete (.array [])⟩
  | emptyObject (stack : List Frame) :
    Moves ⟨stack, .firstKey⟩ .closeObject ⟨stack, .complete (.object [])⟩
  | firstKey (stack : List Frame) (key : Text) :
    Moves ⟨stack, .firstKey⟩ (.scalar (.text key)) ⟨stack, .colon [] key⟩
  | nextKey (stack : List Frame) (members : List (Text × Value)) (key : Text) :
    Moves ⟨stack, .nextKey members⟩ (.scalar (.text key)) ⟨stack, .colon members key⟩
  | colon (stack : List Frame) (members : List (Text × Value)) (key : Text) :
    Moves ⟨stack, .colon members key⟩ .colon ⟨.object members key :: stack, .value⟩
  | nextItem (stack : List Frame) (items : List Value) (v : Value) :
    Moves ⟨.array items :: stack, .complete v⟩ .comma ⟨.array (v :: items) :: stack, .value⟩
  | closeArray (stack : List Frame) (items : List Value) (v : Value) :
    Moves ⟨.array items :: stack, .complete v⟩ .closeArray
      ⟨stack, .complete (.array (v :: items).reverse)⟩
  | nextMember (stack : List Frame) (members : List (Text × Value)) (key : Text) (v : Value) :
    Moves ⟨.object members key :: stack, .complete v⟩ .comma
      ⟨stack, .nextKey ((key, v) :: members)⟩
  | closeObject (stack : List Frame) (members : List (Text × Value)) (key : Text) (v : Value) :
    Moves ⟨.object members key :: stack, .complete v⟩ .closeObject
      ⟨stack, .complete (.object (Members.ofPairs ((key, v) :: members).reverse))⟩

/-- How many containers are open, be they on the stack or not. -/
def level : State → ℕ
  | ⟨stack, .value⟩ => stack.length
  | ⟨stack, .complete _⟩ => stack.length
  | ⟨stack, _⟩ => stack.length + 1

theorem level_of_begins {stack : List Frame} {token : Token} {s : State}
    (begins : Begins stack token s) : s.level = token.depthBehind stack.length := by
  cases begins <;> rfl

theorem level_of_moves {s next : State} {token : Token} (moves : Moves s token next) :
    next.level = token.depthBehind s.level := by
  cases moves with
  | value begins | firstItem begins => exact level_of_begins begins
  | _ => rfl

theorem beginValue_eq_ok_iff {limit : ℕ} {stack : List Frame} (within : stack.length ≤ limit)
    {token : Token} {s : State} :
    beginValue limit stack token = .ok s ↔ Begins stack token s ∧ s.level ≤ limit := by
  constructor
  · intro began
    unfold beginValue at began
    split at began
    · cases began
      exact ⟨.scalar _, within⟩
    · cases began
    · split at began
      · rename_i room
        cases began
        exact ⟨.openArray, room⟩
      · cases began
    · split at began
      · rename_i room
        cases began
        exact ⟨.openObject, room⟩
      · cases began
    · cases began
  · rintro ⟨begins, room⟩
    cases begins with
    | scalar a => rfl
    | openArray | openObject => exact if_pos room

theorem endValue_eq_ok_iff {v : Value} {stack : List Frame} {token : Token} {s : State} :
    endValue v stack token = .ok s ↔ Moves ⟨stack, .complete v⟩ token s := by
  constructor
  · intro ended
    unfold endValue at ended
    split at ended
    · cases ended
      exact .nextItem _ _ _
    · cases ended
      exact .closeArray _ _ _
    · cases ended
      exact .nextMember _ _ _ _
    · cases ended
      exact .closeObject _ _ _ _
    · cases ended
  · intro moves
    cases moves <;> rfl

/-- A step that succeeds is one of the moves, and one within the limit. -/
theorem step_eq_ok_iff {limit : ℕ} {s next : State} {token : Token} (within : s.level ≤ limit) :
    s.step limit token = .ok next ↔ Moves s token next ∧ next.level ≤ limit := by
  constructor
  · intro stepped
    unfold step at stepped
    split at stepped
    · obtain ⟨begins, room⟩ := (beginValue_eq_ok_iff within).mp stepped
      exact ⟨.value begins, room⟩
    · cases stepped
      exact ⟨.emptyArray _, Nat.le_of_succ_le within⟩
    · obtain ⟨begins, room⟩ := (beginValue_eq_ok_iff within).mp stepped
      exact ⟨.firstItem begins, room⟩
    · cases stepped
      exact ⟨.emptyObject _, Nat.le_of_succ_le within⟩
    · cases stepped
      exact ⟨.firstKey _ _, within⟩
    · cases stepped
      exact ⟨.nextKey _ _ _, within⟩
    · cases stepped
      exact ⟨.colon _ _ _, within⟩
    · have moves := endValue_eq_ok_iff.mp stepped
      refine ⟨moves, ?_⟩
      cases moves with
      | nextItem | nextMember => exact within
      | closeArray | closeObject => exact Nat.le_of_succ_le within
    · cases stepped
  · rintro ⟨moves, room⟩
    cases moves with
    | value begins => exact (beginValue_eq_ok_iff within).mpr ⟨begins, room⟩
    | firstItem begins =>
        have began := (beginValue_eq_ok_iff within).mpr ⟨begins, room⟩
        cases begins <;> exact began
    | _ => rfl

theorem begins_of_tooDeep {limit : ℕ} {stack : List Frame} {token : Token}
    {container : Container} (failed : beginValue limit stack token = .error (.tooDeep container)) :
    ∃ next, Begins stack token next ∧ limit < next.level := by
  unfold beginValue at failed
  split at failed
  · cases failed
  · cases failed
  · split at failed
    · cases failed
    · rename_i full
      exact ⟨_, .openArray, Nat.lt_succ_of_le (Nat.le_of_not_lt full)⟩
  · split at failed
    · cases failed
    · rename_i full
      exact ⟨_, .openObject, Nat.lt_succ_of_le (Nat.le_of_not_lt full)⟩
  · cases failed

/-- A step that is given up for its nesting is a move that leads beyond the limit. -/
theorem moves_of_tooDeep {limit : ℕ} {s : State} {token : Token} {container : Container}
    (failed : s.step limit token = .error (.tooDeep container)) :
    ∃ next, Moves s token next ∧ limit < next.level := by
  unfold step at failed
  split at failed
  · obtain ⟨next, begins, deep⟩ := begins_of_tooDeep failed
    exact ⟨next, .value begins, deep⟩
  · cases failed
  · obtain ⟨next, begins, deep⟩ := begins_of_tooDeep failed
    exact ⟨next, .firstItem begins, deep⟩
  · cases failed
  · cases failed
  · cases failed
  · cases failed
  · unfold endValue at failed
    split at failed <;> cases failed
  · cases failed

/-- A move beyond the limit is one that opens a container. -/
theorem tooDeep_of_moves {limit : ℕ} {s next : State} {token : Token} (within : s.level ≤ limit)
    (moves : Moves s token next) (deep : limit < next.level) :
    ∃ container, s.step limit token = .error (.tooDeep container) := by
  have full {stack : List Frame} (most : limit < stack.length + 1) : ¬ stack.length < limit :=
    Nat.not_lt_of_le (Nat.le_of_lt_succ most)
  cases moves with
  | value begins | firstItem begins =>
      cases begins with
      | scalar a => exact absurd within (Nat.not_le_of_lt deep)
      | openArray => exact ⟨.array, if_neg (full deep)⟩
      | openObject => exact ⟨.object, if_neg (full deep)⟩
  | emptyArray | emptyObject | closeArray | closeObject =>
      exact absurd (Nat.le_of_succ_le within) (Nat.not_le_of_lt deep)
  | _ => exact absurd within (Nat.not_le_of_lt deep)

inductive Runs : State → List Token → State → Prop where
  | nil (s : State) : Runs s [] s
  | cons {s next last : State} {token : Token} {tokens : List Token} (first : Moves s token next)
    (rest : Runs next tokens last) : Runs s (token :: tokens) last

namespace Runs

theorem single {s next : State} {token : Token} (moves : Moves s token next) :
    Runs s [token] next :=
  .cons moves (.nil next)

theorem append {s next last : State} {front back : List Token} (first : Runs s front next)
    (second : Runs next back last) : Runs s (front ++ back) last := by
  induction first with
  | nil s => exact second
  | cons moves rest ih => exact .cons moves (ih second)

theorem split {s last : State} {front back : List Token} (runs : Runs s (front ++ back) last) :
    ∃ next, Runs s front next ∧ Runs next back last := by
  induction front generalizing s with
  | nil => exact ⟨s, .nil s, runs⟩
  | cons token front ih =>
      cases runs with
      | cons moves rest =>
          obtain ⟨next, first, second⟩ := ih rest
          exact ⟨next, .cons moves first, second⟩

end Runs

theorem steps_cons (limit : ℕ) (s : State) (token : Token) (tokens : List Token) :
    s.steps limit (token :: tokens) =
      (s.step limit token).bind fun next => next.steps limit tokens := rfl

theorem steps_singleton (limit : ℕ) (s : State) (token : Token) :
    s.steps limit [token] = s.step limit token := by
  rw [steps_cons]
  cases s.step limit token <;> rfl

theorem steps_eq_ok_iff {limit : ℕ} {s last : State} {tokens : List Token}
    (within : s.level ≤ limit) :
    s.steps limit tokens = .ok last ↔ Runs s tokens last ∧ peak s.level tokens ≤ limit := by
  induction tokens generalizing s with
  | nil =>
      constructor
      · rintro ⟨⟩
        exact ⟨.nil _, within⟩
      · rintro ⟨runs, -⟩
        cases runs
        rfl
  | cons token tokens ih =>
      rw [steps_cons, peak, max_le_iff]
      constructor
      · intro stepped
        cases first : s.step limit token with
        | error failure =>
            rw [first] at stepped
            cases stepped
        | ok next =>
            rw [first] at stepped
            obtain ⟨moves, room⟩ := (step_eq_ok_iff within).mp first
            obtain ⟨runs, deep⟩ := (ih room).mp stepped
            rw [level_of_moves moves] at deep
            exact ⟨.cons moves runs, within, deep⟩
      · rintro ⟨runs, -, deep⟩
        cases runs with
        | @cons _ next _ _ _ moves rest =>
            rw [← level_of_moves moves] at deep
            have room : next.level ≤ limit := (le_peak _ tokens).trans deep
            rw [(step_eq_ok_iff within).mpr ⟨moves, room⟩]
            exact (ih room).mpr ⟨rest, deep⟩

/-- A run is given up for its nesting only beyond the limit. -/
theorem limit_lt_of_steps {limit : ℕ} {s : State} {tokens : List Token} {container : Container}
    (within : s.level ≤ limit) (failed : s.steps limit tokens = .error (.tooDeep container)) :
    limit < peak s.level tokens := by
  induction tokens generalizing s with
  | nil => cases failed
  | cons token tokens ih =>
      rw [steps_cons] at failed
      rw [peak, lt_max_iff]
      right
      cases first : s.step limit token with
      | error failure =>
          rw [first] at failed
          cases failed
          obtain ⟨next, moves, deep⟩ := moves_of_tooDeep first
          rw [level_of_moves moves] at deep
          exact deep.trans_le (le_peak _ tokens)
      | ok next =>
          rw [first] at failed
          obtain ⟨moves, room⟩ := (step_eq_ok_iff within).mp first
          rw [← level_of_moves moves]
          exact ih room failed

theorem tooDeep_of_runs {limit : ℕ} {s last : State} {tokens : List Token}
    (within : s.level ≤ limit) (runs : Runs s tokens last) (deep : limit < peak s.level tokens) :
    ∃ container, s.steps limit tokens = .error (.tooDeep container) := by
  induction runs with
  | nil s => exact absurd within (Nat.not_le_of_lt deep)
  | @cons s next last token tokens moves rest ih =>
      rw [steps_cons]
      by_cases room : next.level ≤ limit
      · rw [peak, lt_max_iff, ← level_of_moves moves] at deep
        rw [(step_eq_ok_iff within).mpr ⟨moves, room⟩]
        exact ih room (deep.resolve_left (Nat.not_lt_of_le within))
      · obtain ⟨container, failed⟩ := tooDeep_of_moves within moves (Nat.lt_of_not_le room)
        exact ⟨container, by rw [failed]; rfl⟩

end State

end WalletKit.Json
