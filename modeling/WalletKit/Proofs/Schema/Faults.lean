import WalletKit.Proofs.Schema.Acceptance

set_option autoImplicit false

namespace WalletKit

open Json

namespace Json.Value

/-- The value that a step leads to, if there is one. -/
def step? : Value → Step → Option Value
  | .object members, .key name => Members.get? members name
  | .array items, .index i => items[i]?
  | _, _ => none

/-- The value at the end of a path, if every step of it leads somewhere. -/
def at? (v : Value) (path : List Step) : Option Value := path.foldlM step? v

theorem at?_cons (v : Value) (step : Step) (path : List Step) :
    v.at? (step :: path) = (v.step? step).bind fun inner => inner.at? path :=
  List.foldlM_cons

end Json.Value

namespace Schema

/-- What a schema asks of a single value: a kind, or a member if it is an object. -/
inductive Rule where
  | kind (k : Kind)
  | member (name : String)

namespace Rule

def Broken : Rule → Value → Prop
  | .kind k, v => ¬ k.Holds v
  | .member name, v =>
    ∃ members, v = .object members ∧ Members.get? members (Text.ofString name) = none

/-- What is reported of a value that breaks the rule. -/
def cause : Rule → Value → Cause
  | .kind k, v => .wrongKind v k
  | .member name, _ => .missingMember name

end Rule

/-- The rules for the value at the end of a path. -/
def Asks : Schema → List Step → Rule → Prop
  | .anything, _, _ => False
  | .kind k rest, path, rule => (path = [] ∧ rule = .kind k) ∨ rest.Asks path rule
  | .required name rest, path, rule => (path = [] ∧ rule = .member name) ∨ rest.Asks path rule
  | .member name inner rest, path, rule =>
    (∃ inside, path = .key (Text.ofString name) :: inside ∧ inner.Asks inside rule) ∨
      rest.Asks path rule
  | .each inner rest, path, rule =>
    (∃ i inside, path = .index i :: inside ∧ inner.Asks inside rule) ∨ rest.Asks path rule

/-- A rule for the value at the end of a path is broken there, and `cause` is what is reported. -/
def BrokenAt (schema : Schema) (v : Value) (path : List Step) (cause : Cause) : Prop :=
  ∃ found rule, v.at? path = some found ∧ schema.Asks path rule ∧ rule.Broken found ∧
    rule.cause found = cause

section
variable {schema inner rest : Schema} {v : Value} {path : List Step} {cause : Cause}

theorem not_brokenAt_anything : ¬ anything.BrokenAt v path cause := by
  rintro ⟨found, rule, leads, never, -⟩
  exact never

theorem brokenAt_here_iff {own : Rule}
    (asks : ∀ path rule,
      schema.Asks path rule ↔ (path = [] ∧ rule = own) ∨ rest.Asks path rule) :
    schema.BrokenAt v path cause ↔
      (path = [] ∧ own.Broken v ∧ own.cause v = cause) ∨ rest.BrokenAt v path cause := by
  simp only [BrokenAt, asks]
  constructor
  · rintro ⟨found, rule, leads, ⟨rfl, rfl⟩ | later, broken, same⟩
    · cases leads
      exact Or.inl ⟨rfl, broken, same⟩
    · exact Or.inr ⟨found, rule, leads, later, broken, same⟩
  · rintro (⟨rfl, broken, same⟩ | ⟨found, rule, leads, later, broken, same⟩)
    · exact ⟨v, own, rfl, Or.inl ⟨rfl, rfl⟩, broken, same⟩
    · exact ⟨found, rule, leads, Or.inr later, broken, same⟩

/-- A schema that begins with an inner one, for what some steps lead to. -/
theorem brokenAt_inside_iff {steps : Step → Prop}
    (asks : ∀ path rule, schema.Asks path rule ↔
      (∃ step inside, steps step ∧ path = step :: inside ∧ inner.Asks inside rule) ∨
        rest.Asks path rule) :
    schema.BrokenAt v path cause ↔
      (∃ step inside found, steps step ∧ v.step? step = some found ∧ path = step :: inside ∧
        inner.BrokenAt found inside cause) ∨ rest.BrokenAt v path cause := by
  simp only [BrokenAt, asks]
  constructor
  · rintro ⟨found, rule, leads, ⟨step, inside, first, rfl, asked⟩ | later, broken, same⟩
    · rw [Value.at?_cons, Option.bind_eq_some_iff] at leads
      obtain ⟨next, here, leads⟩ := leads
      exact Or.inl
        ⟨step, inside, next, first, here, rfl, found, rule, leads, asked, broken, same⟩
    · exact Or.inr ⟨found, rule, leads, later, broken, same⟩
  · rintro (⟨step, inside, next, first, here, rfl, found, rule, leads, asked, broken, same⟩ |
      ⟨found, rule, leads, later, broken, same⟩)
    · refine ⟨found, rule, ?_, Or.inl ⟨step, inside, first, rfl, asked⟩, broken, same⟩
      rw [Value.at?_cons, here]
      exact leads
    · exact ⟨found, rule, leads, Or.inr later, broken, same⟩

theorem asks_member_iff {name : String} {rule : Rule} :
    (member name inner rest).Asks path rule ↔
      (∃ step inside, step = .key (Text.ofString name) ∧ path = step :: inside ∧
        inner.Asks inside rule) ∨ rest.Asks path rule := by
  simp [Asks]

theorem asks_each_iff {rule : Rule} :
    (each inner rest).Asks path rule ↔
      (∃ step inside, (∃ i, step = .index i) ∧ path = step :: inside ∧
        inner.Asks inside rule) ∨ rest.Asks path rule := by
  rw [Asks]
  refine or_congr_left ⟨?_, ?_⟩
  · rintro ⟨i, inside, shape, asked⟩
    exact ⟨.index i, inside, ⟨i, rfl⟩, shape, asked⟩
  · rintro ⟨_, inside, ⟨i, rfl⟩, shape, asked⟩
    exact ⟨i, inside, shape, asked⟩

end

/-- One of the faults lies at the end of `path` and has the cause. -/
def Reported (faults : List Fault) (path : List Step) (cause : Cause) : Prop :=
  ∃ fault ∈ faults, fault.path = path ∧ fault.cause = cause

section
variable {path : List Step} {cause : Cause}

theorem not_reported_nil : ¬ Reported [] path cause := by
  rintro ⟨fault, inside, -⟩
  cases inside

theorem reported_append_iff {front back : List Fault} :
    Reported (front ++ back) path cause ↔
      Reported front path cause ∨ Reported back path cause := by
  simp only [Reported, List.mem_append, or_and_right, exists_or]

theorem reported_here_iff {reason : Cause} :
    Reported [.here reason] path cause ↔ path = [] ∧ reason = cause := by
  constructor
  · rintro ⟨fault, inside, rfl, rfl⟩
    rw [List.mem_singleton.mp inside]
    exact ⟨rfl, rfl⟩
  · rintro ⟨rfl, rfl⟩
    exact ⟨.here reason, List.mem_singleton_self _, rfl, rfl⟩

theorem reported_inside_iff {faults : List Fault} {step : Step} {schemaSteps : List Step} :
    Reported (faults.map (.inside step schemaSteps)) path cause ↔
      ∃ inside, path = step :: inside ∧ Reported faults inside cause := by
  constructor
  · rintro ⟨fault, inside, rfl, rfl⟩
    obtain ⟨inner, found, rfl⟩ := List.mem_map.mp inside
    exact ⟨inner.path, rfl, inner, found, rfl, rfl⟩
  · rintro ⟨inside, rfl, inner, found, rfl, rfl⟩
    exact ⟨.inside step schemaSteps inner, List.mem_map_of_mem found, rfl, rfl⟩

theorem reported_items_iff {inner : Schema} {items : List Value} :
    Reported (items.zipIdx.flatMap fun (item, i) => (inner.faults item).map (.inItem i)) path
        cause ↔
      ∃ i inside found, items[i]? = some found ∧ path = .index i :: inside ∧
        Reported (inner.faults found) inside cause := by
  have reports (i : ℕ) (found : Value) :
      Reported ((inner.faults found).map (.inItem i)) path cause ↔
        ∃ inside, path = .index i :: inside ∧ Reported (inner.faults found) inside cause :=
    reported_inside_iff
  constructor
  · rintro ⟨fault, inside, places⟩
    obtain ⟨⟨item, i⟩, entry, own⟩ := List.mem_flatMap.mp inside
    obtain ⟨inside, shape, reported⟩ := (reports i item).mp ⟨fault, own, places⟩
    exact ⟨i, inside, item, List.mem_zipIdx_iff_getElem?.mp entry, shape, reported⟩
  · rintro ⟨i, inside, item, entry, shape, reported⟩
    obtain ⟨fault, own, places⟩ := (reports i item).mpr ⟨inside, shape, reported⟩
    refine ⟨fault, List.mem_flatMap.mpr ⟨(item, i), ?_, own⟩, places⟩
    exact List.mem_zipIdx_iff_getElem?.mpr entry

end

theorem reported_faults_iff (schema : Schema) (v : Value) (path : List Step) (cause : Cause) :
    Reported (schema.faults v) path cause ↔ schema.BrokenAt v path cause := by
  -- The induction settles what follows the first demand, so the first demand is compared alone.
  induction schema generalizing v path with
  | anything => exact iff_of_false not_reported_nil not_brokenAt_anything
  | kind k rest ih =>
      rw [brokenAt_here_iff fun _ _ => Iff.rfl, ← ih, faults, reported_append_iff, Rule.Broken,
        ← Kind.accepts_iff]
      refine or_congr_left ?_
      split
      · simp [*, not_reported_nil]
      · simp [*, reported_here_iff, Rule.cause]
  | required name rest ih =>
      rw [brokenAt_here_iff fun _ _ => Iff.rfl, ← ih]
      cases v with
      | scalar | array => simp [faults, Rule.Broken]
      | object members =>
          rw [faults, reported_append_iff]
          refine or_congr_left ?_
          cases found : Members.get? members (Text.ofString name) with
          | none => simp [Rule.Broken, Rule.cause, found, reported_here_iff]
          | some inside => simp [Rule.Broken, found, not_reported_nil]
  | member name inner rest ihInner ih =>
      rw [brokenAt_inside_iff fun _ _ => asks_member_iff, ← ih]
      cases v with
      | scalar | array => simp [faults, Value.step?]
      | object members =>
          rw [faults, reported_append_iff]
          refine or_congr_left ?_
          simp only [← ihInner, exists_and_left, exists_eq_left, Value.step?]
          cases found : Members.get? members (Text.ofString name) with
          | none => simp [not_reported_nil]
          | some inside =>
              simp only [Option.some_inj, exists_eq_left']
              exact reported_inside_iff
  | each inner rest ihInner ih =>
      rw [brokenAt_inside_iff fun _ _ => asks_each_iff, ← ih]
      cases v with
      | scalar | object => simp [faults, Value.step?]
      | array items =>
          rw [faults, reported_append_iff]
          refine or_congr_left (reported_items_iff.trans ?_)
          simp only [← ihInner]
          constructor
          · rintro ⟨i, inside, found, entry, shape, reported⟩
            exact ⟨.index i, inside, found, ⟨i, rfl⟩, entry, shape, reported⟩
          · rintro ⟨_, inside, found, ⟨i, rfl⟩, entry, shape, reported⟩
            exact ⟨i, inside, found, entry, shape, reported⟩

/-- The keys of the members that a schema names for objects at the end of a path. -/
def Names : Schema → List Step → Text → Prop
  | .anything, _, _ => False
  | .kind _ rest, path, key => rest.Names path key
  | .required name rest, path, key =>
    (path = [] ∧ key = Text.ofString name) ∨ rest.Names path key
  | .member name inner rest, path, key =>
    (path = [] ∧ key = Text.ofString name) ∨
      (∃ inside, path = .key (Text.ofString name) :: inside ∧ inner.Names inside key) ∨
      rest.Names path key
  | .each inner rest, path, key =>
    (∃ i inside, path = .index i :: inside ∧ inner.Names inside key) ∨ rest.Names path key

/-- Two values differ in one object at most, the one at the end of the path, and its members with
`named` keys are the same in both. -/
inductive Edited (named : Text → Prop) : List Step → Value → Value → Prop where
  | here {first second : List (Text × Value)}
    (same : ∀ key, named key → Members.get? first key = Members.get? second key) :
    Edited named [] (.object first) (.object second)
  | member (before : List (Text × Value)) {behind : List (Text × Value)} {key : Text}
    {path : List Step} {v w : Value} (first : Members.get? before key = none)
    (inside : Edited named path v w) :
    Edited named (.key key :: path) (.object (before ++ (key, v) :: behind))
      (.object (before ++ (key, w) :: behind))
  | item (before : List Value) {behind : List Value} {path : List Step} {v w : Value}
    (inside : Edited named path v w) :
    Edited named (.index before.length :: path) (.array (before ++ v :: behind))
      (.array (before ++ w :: behind))

namespace Edited

theorem mono {few many : Text → Prop} (fewer : ∀ key, few key → many key) {path : List Step}
    {v w : Value} (edited : Edited many path v w) : Edited few path v w := by
  induction edited with
  | here same => exact .here fun key inside => same key (fewer key inside)
  | member before first _ ih => exact .member before first ih
  | item before _ ih => exact .item before ih

/-- A member with another key is added, or removed. -/
theorem here_of_added {named : Text → Prop} {key : Text} (other : ¬ named key)
    (before behind : List (Text × Value)) (value : Value) :
    Edited named [] (.object (before ++ behind)) (.object (before ++ (key, value) :: behind)) := by
  refine .here fun wanted inside => ?_
  have differs : wanted ≠ key := fun same => other (same ▸ inside)
  exact (Members.get?_append_cons_of_ne differs before value behind).symm

theorem accepts {named : Text → Prop} {path : List Step} {v w : Value}
    (edited : Edited named path v w) (k : Kind) : k.accepts v = k.accepts w := by
  cases edited <;> cases k <;> rfl

/-- Scalars cannot be edited, and what is edited stays an object or an array. -/
theorem shape {named : Text → Prop} {path : List Step} {v w : Value}
    (edited : Edited named path v w) :
    (∃ first second, v = .object first ∧ w = .object second) ∨
      ∃ first second, v = .array first ∧ w = .array second := by
  cases edited with
  | here | member => exact Or.inl ⟨_, _, rfl, rfl⟩
  | item => exact Or.inr ⟨_, _, rfl, rfl⟩

/-- What is found under a key is the same in both, unless the path leads there. -/
theorem get? {named : Text → Prop} {path : List Step} {first second : List (Text × Value)}
    (edited : Edited named path (.object first) (.object second)) (key : Text) :
    (path = [] ∧ (named key → Members.get? first key = Members.get? second key)) ∨
      (∃ inside v w, path = .key key :: inside ∧ Members.get? first key = some v ∧
        Members.get? second key = some w ∧ Edited named inside v w) ∨
      Members.get? first key = Members.get? second key := by
  cases edited with
  | here same => exact Or.inl ⟨rfl, same key⟩
  | @member before behind other path v w absent inside =>
      by_cases here : key = other
      · rw [here]
        exact Or.inr (Or.inl ⟨path, v, w, rfl, Members.get?_append_cons_self absent v behind,
          Members.get?_append_cons_self absent w behind, inside⟩)
      · rw [Members.get?_append_cons_of_ne here, Members.get?_append_cons_of_ne here]
        exact Or.inr (Or.inr rfl)

end Edited

/-- Where a fault lies in the value and in the schema. -/
def Fault.place (fault : Fault) : List Step × List Step := (fault.path, fault.schemaPath)

theorem places_inside {first second : List Fault}
    (same : first.map Fault.place = second.map Fault.place) (step : Step)
    (schemaSteps : List Step) :
    (first.map (.inside step schemaSteps)).map Fault.place =
      (second.map (.inside step schemaSteps)).map Fault.place := by
  have outer : Fault.place ∘ Fault.inside step schemaSteps =
      (fun place => (step :: place.1, schemaSteps ++ place.2)) ∘ Fault.place := rfl
  rw [List.map_map, List.map_map, outer, ← List.map_map, ← List.map_map, same]

/-- Values that differ in unnamed members only have their faults in the same places. -/
theorem places_of_edited {schema : Schema} {path : List Step} {v w : Value}
    (edited : Edited (schema.Names path) path v w) :
    (schema.faults v).map Fault.place = (schema.faults w).map Fault.place := by
  -- Only the places agree: what a fault says of a value may tell of the edited members.
  induction schema generalizing path v w with
  | anything => rfl
  | kind k rest ih =>
      rw [faults, faults, List.map_append, List.map_append, ih edited, edited.accepts]
      split <;> rfl
  | required name rest ih =>
      have later := ih (edited.mono fun _ => Or.inr)
      rcases edited.shape with ⟨first, second, rfl, rfl⟩ | ⟨first, second, rfl, rfl⟩
      · rw [faults, faults, List.map_append, List.map_append, later]
        rcases edited.get? (Text.ofString name) with
          ⟨rfl, same⟩ | ⟨inside, v, w, -, left, right, -⟩ | same
        · rw [same (Or.inl ⟨rfl, rfl⟩)]
        · rw [left, right]
          rfl
        · rw [same]
      · simpa only [faults, List.nil_append] using later
  | member name inner rest ihInner ih =>
      have later := ih (edited.mono fun _ named => Or.inr (Or.inr named))
      rcases edited.shape with ⟨first, second, rfl, rfl⟩ | ⟨first, second, rfl, rfl⟩
      · rw [faults, faults, List.map_append, List.map_append, later]
        rcases edited.get? (Text.ofString name) with
          ⟨rfl, same⟩ | ⟨inside, v, w, rfl, left, right, within⟩ | same
        · rw [same (Or.inl ⟨rfl, rfl⟩)]
        · rw [left, right]
          have places := ihInner (within.mono fun _ named =>
            Or.inr (Or.inl ⟨inside, rfl, named⟩))
          exact congrArg (· ++ _) (places_inside places _ _)
        · rw [same]
      · simpa only [faults, List.nil_append] using later
  | each inner rest ihInner ih =>
      have later := ih (edited.mono fun _ => Or.inr)
      cases edited with
      | here | member => simpa only [faults, List.nil_append] using later
      | @item before behind path v w inside =>
          have places := ihInner (inside.mono fun _ named =>
            Or.inl ⟨before.length, path, rfl, named⟩)
          rw [faults, faults, List.map_append, List.map_append, later]
          simp only [List.zipIdx_append, List.zipIdx_cons, List.flatMap_append,
            List.flatMap_cons, List.map_append, Nat.zero_add]
          exact congrArg (fun own => _ ++ (own ++ _) ++ _) (places_inside places _ _)

section
variable {schema : Schema} {v w : Value}

theorem validate_eq_error_iff {fault : Fault} :
    schema.validate v = .error fault ↔ (schema.faults v).head? = some fault := by
  rw [validate]
  cases schema.faults v <;> simp

theorem exists_validate_eq_error_iff :
    (∃ fault, schema.validate v = .error fault) ↔ schema.accepts v = false := by
  simp only [validate_eq_error_iff]
  rw [accepts]
  cases schema.faults v <;> simp

theorem brokenAt_of_validate {fault : Fault} (refused : schema.validate v = .error fault) :
    schema.BrokenAt v fault.path fault.cause := by
  have inside := List.mem_of_head? (validate_eq_error_iff.mp refused)
  exact (reported_faults_iff schema v _ _).mp ⟨fault, inside, rfl, rfl⟩

theorem accepts_eq_false_iff :
    schema.accepts v = false ↔ ∃ path cause, schema.BrokenAt v path cause := by
  simp only [← reported_faults_iff, ← exists_validate_eq_error_iff, validate_eq_error_iff]
  constructor
  · rintro ⟨fault, first⟩
    exact ⟨fault.path, fault.cause, fault, List.mem_of_head? first, rfl, rfl⟩
  · rintro ⟨path, cause, fault, inside, -⟩
    exact ⟨_, List.head?_eq_some_head (List.ne_nil_of_mem inside)⟩

theorem accepts_of_edited {path : List Step} (edited : Edited (schema.Names path) path v w) :
    schema.accepts v = schema.accepts w := by
  have places := congrArg List.isEmpty (places_of_edited edited)
  rwa [List.isEmpty_map, List.isEmpty_map] at places

theorem validate_of_edited {path : List Step} (edited : Edited (schema.Names path) path v w) :
    (schema.validate v).mapError Fault.place = (schema.validate w).mapError Fault.place := by
  have places := places_of_edited edited
  rw [validate, validate]
  cases first : schema.faults v with
  | nil =>
      rw [first, List.map_nil, eq_comm, List.map_eq_nil_iff] at places
      rw [places]
  | cons fault others =>
      rw [first, List.map_cons] at places
      cases second : schema.faults w with
      | nil => rw [second] at places; cases places
      | cons =>
          rw [second, List.map_cons, List.cons.injEq] at places
          exact congrArg Except.error places.1

end

end Schema

end WalletKit
