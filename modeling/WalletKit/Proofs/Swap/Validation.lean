import WalletKit.Proofs.Schema.Faults
import WalletKit.Proofs.Swap.Liquidity

set_option autoImplicit false

namespace WalletKit.Swap

open Json

/-- The place of a validation error. -/
def itemPath (i : ℕ) : List Step := [.key (Text.ofString "validationErrors"), .index i]

/-- The rules for payloads, by the places where they apply. -/
inductive PayloadRule : List Step → Schema.Rule → Prop where
  | payload : PayloadRule [] (.kind .object)
  | hasErrors : PayloadRule [] (.member "validationErrors")
  | code : PayloadRule [.key (Text.ofString "code")] (.kind .integer)
  | reason : PayloadRule [.key (Text.ofString "reason")] (.kind .string)
  | errors : PayloadRule [.key (Text.ofString "validationErrors")] (.kind .array)
  | item (i : ℕ) : PayloadRule (itemPath i) (.kind .object)
  | itemHasReason (i : ℕ) : PayloadRule (itemPath i) (.member "reason")
  | itemField (i : ℕ) : PayloadRule (itemPath i ++ [.key (Text.ofString "field")]) (.kind .string)
  | itemCode (i : ℕ) : PayloadRule (itemPath i ++ [.key (Text.ofString "code")]) (.kind .integer)
  | itemReason (i : ℕ) :
    PayloadRule (itemPath i ++ [.key (Text.ofString "reason")]) (.kind .string)

theorem asks_payloadSchema_iff (path : List Step) (rule : Schema.Rule) :
    payloadSchema.Asks path rule ↔ PayloadRule path rule := by
  simp only [payloadSchema, itemSchema, Schema.Asks, or_false]
  constructor
  · rintro (⟨rfl, rfl⟩ | ⟨rfl, rfl⟩ | ⟨_, rfl, rfl, rfl⟩ | ⟨_, rfl, rfl, rfl⟩ |
      ⟨_, rfl, ⟨rfl, rfl⟩ | ⟨i, _, rfl, item⟩⟩)
    · exact .payload
    · exact .hasErrors
    · exact .code
    · exact .reason
    · exact .errors
    · rcases item with ⟨rfl, rfl⟩ | ⟨rfl, rfl⟩ | ⟨_, rfl, rfl, rfl⟩ | ⟨_, rfl, rfl, rfl⟩ |
        ⟨_, rfl, rfl, rfl⟩
      · exact .item i
      · exact .itemHasReason i
      · exact .itemField i
      · exact .itemCode i
      · exact .itemReason i
  · intro known
    cases known <;> simp [itemPath]

/-- The path leads to `found`, and this breaks a rule that there is for its place. -/
def BreaksRule (v : Value) (path : List Step) (found : Value) (rule : Schema.Rule) : Prop :=
  v.at? path = some found ∧ PayloadRule path rule ∧ rule.Broken found

theorem brokenAt_payloadSchema_iff {v : Value} {path : List Step} {cause : Schema.Cause} :
    payloadSchema.BrokenAt v path cause ↔
      ∃ found rule, BreaksRule v path found rule ∧ rule.cause found = cause := by
  simp only [Schema.BrokenAt, asks_payloadSchema_iff, BreaksRule, and_assoc]

/-- Exactly the payloads are accepted and all other values refused, and these are the values in
which some rule is broken. The path of a refusal leads to a value that breaks a rule for its place,
the one that is reported, and it stays the same, as does the verdict, whatever becomes of members
that the schema does not name where they stand. -/
theorem payloads_validated (v : Value) :
    ((∃ fault, payloadSchema.validate v = .error fault) ↔ payloadSchema.accepts v = false) ∧
    (payloadSchema.accepts v = true ↔ IsPayload v) ∧
    (payloadSchema.accepts v = false ↔ ∃ path found rule, BreaksRule v path found rule) ∧
    (∀ fault, payloadSchema.validate v = .error fault →
      ∃ found rule, BreaksRule v fault.path found rule ∧ rule.cause found = fault.cause) ∧
    ∀ path w, Schema.Edited (payloadSchema.Names path) path v w →
      payloadSchema.accepts v = payloadSchema.accepts w ∧
      (payloadSchema.validate v).mapError Schema.Fault.place =
        (payloadSchema.validate w).mapError Schema.Fault.place := by
  refine ⟨Schema.exists_validate_eq_error_iff, accepts_payloadSchema_iff v, ?_, ?_, ?_⟩
  · rw [Schema.accepts_eq_false_iff]
    simp only [brokenAt_payloadSchema_iff]
    constructor
    · rintro ⟨path, cause, found, rule, breaks, -⟩
      exact ⟨path, found, rule, breaks⟩
    · rintro ⟨path, found, rule, breaks⟩
      exact ⟨path, rule.cause found, found, rule, breaks, rfl⟩
  · intro fault refused
    exact brokenAt_payloadSchema_iff.mp (Schema.brokenAt_of_validate refused)
  · intro path w edited
    exact ⟨Schema.accepts_of_edited edited, Schema.validate_of_edited edited⟩

/-- Of two faults the one in the reason is reported, also when a validation error gets a member of
another name. -/
theorem payloads_validated_of_two_faults :
    ∃ v w fault found rule,
      v = .record [("reason", .scalar (.int 1)),
        ("validationErrors", .array [.record [("code", .scalar (.bool true))]])] ∧
      w = .record [("reason", .scalar (.int 1)),
        ("validationErrors", .array [.record [("code", .scalar (.bool true)), ("x", .array [])]])] ∧
      payloadSchema.validate v = .error fault ∧
      fault.path = [.key (Text.ofString "reason")] ∧ BreaksRule v fault.path found rule ∧
      (payloadSchema.validate w).mapError Schema.Fault.place = .error fault.place := by
  let code : Text × Value := (Text.ofString "code", .scalar (.bool true))
  let reason : Text × Value := (Text.ofString "reason", .scalar (.int 1))
  let errors (item : Value) : Value :=
    .object [reason, (Text.ofString "validationErrors", .array [item])]
  have unnamed : ¬ payloadSchema.Names (itemPath 0) (Text.ofString "x") := by
    simp [payloadSchema, itemSchema, Schema.Names, itemPath, Text.ofString]
  have added : Schema.Edited (payloadSchema.Names (itemPath 0)) (itemPath 0)
      (errors (.object [code])) (errors (.object [code, (Text.ofString "x", .array [])])) :=
    .member [reason] rfl (.item [] (.here_of_added unnamed [code] [] _))
  obtain ⟨-, -, -, points, edited⟩ := payloads_validated (errors (.object [code]))
  obtain ⟨found, rule, breaks, -⟩ := points _ rfl
  exact ⟨_, _, _, found, rule, rfl, rfl, rfl, rfl, breaks, (edited _ _ added).2.symm⟩

end WalletKit.Swap
