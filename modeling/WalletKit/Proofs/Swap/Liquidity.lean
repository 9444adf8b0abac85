import WalletKit.Proofs.Json.Documents
import WalletKit.Proofs.Schema.Acceptance
import WalletKit.Swap.Error

set_option autoImplicit false

namespace WalletKit.Swap

open Json

/-- If there is a member called `name`, its value has the property. -/
def IfPresent (members : List (Text × Value)) (name : String) (property : Value → Prop) : Prop :=
  ∀ v, Members.get? members (Text.ofString name) = some v → property v

/-- An object with a text as its reason; its field is a text and its code whole, if present. -/
def IsValidationError (v : Value) : Prop :=
  ∃ members, v = .object members ∧
    (∃ t, Members.get? members (Text.ofString "reason") = some (.scalar (.text t))) ∧
    IfPresent members "field" Value.IsText ∧ IfPresent members "code" Value.IsInteger

/-- An object with an array of validation errors; its code is whole and its reason a text, if
present. -/
def IsPayload (v : Value) : Prop :=
  ∃ members items, v = .object members ∧
    Members.get? members (Text.ofString "validationErrors") = some (.array items) ∧
    (∀ item ∈ items, IsValidationError item) ∧
    IfPresent members "code" Value.IsInteger ∧ IfPresent members "reason" Value.IsText

def HasReason (reason : String) (v : Value) : Prop :=
  ∃ members, v = .object members ∧
    Members.get? members (Text.ofString "reason") = some (.scalar (.text (Text.ofString reason)))

/-- An item of the validation errors has the reason. -/
def HasItemWithReason (reason : String) (v : Value) : Prop :=
  ∃ members items, v = .object members ∧
    Members.get? members (Text.ofString "validationErrors") = some (.array items) ∧
    ∃ item ∈ items, HasReason reason item

/-- A payload with the reason that tells of missing liquidity. -/
def TellsOfLiquidity (v : Value) : Prop :=
  IsPayload v ∧ HasItemWithReason "INSUFFICIENT_ASSET_LIQUIDITY" v

theorem holds_itemSchema_iff (v : Value) : itemSchema.Holds v ↔ IsValidationError v := by
  simp only [itemSchema, Schema.Holds, Kind.Holds, and_true]
  constructor
  · rintro ⟨⟨members, rfl⟩, required, field, code, reason⟩
    obtain ⟨found, present⟩ := required members rfl
    obtain ⟨t, rfl⟩ := reason members rfl found present
    exact ⟨members, rfl, ⟨t, present⟩, field members rfl, code members rfl⟩
  · rintro ⟨members, rfl, ⟨t, present⟩, field, code⟩
    refine ⟨⟨members, rfl⟩, ?_, ?_, ?_, ?_⟩
    all_goals rintro _ ⟨rfl⟩
    · exact ⟨_, present⟩
    · exact field
    · exact code
    · intro found other
      rw [present] at other
      cases other
      exact ⟨t, rfl⟩

theorem accepts_payloadSchema_iff (v : Value) :
    payloadSchema.accepts v = true ↔ IsPayload v := by
  rw [Schema.accepts_iff_holds]
  simp only [payloadSchema, Schema.Holds, Kind.Holds, and_true, holds_itemSchema_iff]
  constructor
  · rintro ⟨⟨members, rfl⟩, required, code, reason, errors⟩
    obtain ⟨found, present⟩ := required members rfl
    obtain ⟨⟨items, rfl⟩, each⟩ := errors members rfl found present
    exact ⟨members, items, rfl, present, each items rfl, code members rfl, reason members rfl⟩
  · rintro ⟨members, items, rfl, present, each, code, reason⟩
    refine ⟨⟨members, rfl⟩, ?_, ?_, ?_, ?_⟩
    all_goals rintro _ ⟨rfl⟩
    · exact ⟨_, present⟩
    · exact code
    · exact reason
    · intro found other
      rw [present] at other
      cases other
      refine ⟨⟨items, rfl⟩, ?_⟩
      rintro _ ⟨rfl⟩
      exact each

theorem member_eq_ok {members : List (Text × Value)} {name : String} {v : Value}
    (present : Members.get? members (Text.ofString name) = some v) :
    (Value.object members).member name = .ok v := by
  rw [Value.member, present]

theorem hasReason_object_iff {members : List (Text × Value)} {t : Text}
    (present : Members.get? members (Text.ofString "reason") = some (.scalar (.text t)))
    (reason : String) : HasReason reason (.object members) ↔ t = Text.ofString reason := by
  constructor
  · rintro ⟨_, ⟨rfl⟩, other⟩
    rw [present] at other
    cases other
    rfl
  · rintro rfl
    exact ⟨members, rfl, present⟩

/-- Every item is safe to look into, so the search goes on to the first with the reason. -/
theorem anyM_items {items : List Value} (each : ∀ item ∈ items, IsValidationError item)
    (reason : String) :
    ∃ answer : Bool,
      (items.anyM fun item => return (← item.member "reason").isText reason) =
        Except.ok (ε := AccessError) answer ∧
      (answer = true ↔ ∃ item ∈ items, HasReason reason item) := by
  induction items with
  | nil => exact ⟨false, rfl, by simp⟩
  | cons item items ih =>
      rw [List.forall_mem_cons] at each
      obtain ⟨⟨members, rfl, ⟨t, present⟩, -⟩, each⟩ := each
      have here := hasReason_object_iff present reason
      rw [List.anyM, member_eq_ok present]
      by_cases same : t = Text.ofString reason
      · have found : (Value.scalar (.text t)).isText reason = true := decide_eq_true same
        refine ⟨true, ?_, ?_⟩
        · simp only [bind, Except.bind, pure, Except.pure, found]
        · exact iff_of_true rfl ⟨_, List.mem_cons_self .., here.mpr same⟩
      · have other : (Value.scalar (.text t)).isText reason = false := decide_eq_false same
        obtain ⟨answer, rest, known⟩ := ih each
        refine ⟨answer, ?_, ?_⟩
        · simp only [bind, Except.bind, pure, Except.pure, other]
          exact rest
        · rw [known, List.exists_mem_cons_iff, here, or_iff_right same]

theorem mentionsLiquidity_of_isPayload {v : Value} (form : IsPayload v) :
    ∃ answer, mentionsLiquidity v = .ok answer ∧
      (answer = true ↔ HasItemWithReason "INSUFFICIENT_ASSET_LIQUIDITY" v) := by
  obtain ⟨members, items, rfl, present, each, -, -⟩ := form
  obtain ⟨answer, found, known⟩ := anyM_items each insufficientLiquidity
  refine ⟨answer, ?_, known.trans ?_⟩
  · rw [mentionsLiquidity, member_eq_ok present]
    exact found
  · constructor
    · intro mentioned
      exact ⟨members, items, rfl, present, mentioned⟩
    · rintro ⟨_, others, ⟨rfl⟩, again, mentioned⟩
      rw [present] at again
      cases again
      exact mentioned

theorem verdict_of_isPayload {v : Value} (form : IsPayload v) :
    ∃ answer, verdict (some v) = .ok { value := answer } ∧
      (answer = true ↔ HasItemWithReason "INSUFFICIENT_ASSET_LIQUIDITY" v) := by
  obtain ⟨answer, found, known⟩ := mentionsLiquidity_of_isPayload form
  refine ⟨answer, ?_, known⟩
  rw [verdict, if_pos ((accepts_payloadSchema_iff v).mpr form), found]
  rfl

/-- What has not the form is reported, and not looked into. -/
theorem verdict_of_not_isPayload {v : Value} (malformed : ¬ IsPayload v) :
    verdict (some v) = .ok ⟨false, [⟨.debug, .swapErrors,
      "Swap error payload rejected by schema " ++ Text.quoted schemaName⟩]⟩ :=
  if_neg fun accepted => malformed ((accepts_payloadSchema_iff v).mp accepted)

theorem verdict_of_value (v : Value) :
    ∃ answer, verdict (some v) = .ok answer ∧ (answer.value = true ↔ TellsOfLiquidity v) := by
  by_cases form : IsPayload v
  · obtain ⟨answer, given, known⟩ := verdict_of_isPayload form
    exact ⟨_, given, known.trans (and_iff_right form).symm⟩
  · exact ⟨_, verdict_of_not_isPayload form,
      iff_of_false Bool.false_ne_true fun tells => form tells.1⟩

/-- What is known of a validation error. -/
inductive ItemView where
  | object (reason field code : Option Value)
  | other (v : Value)

def itemView : Value → ItemView
  | .object members =>
    .object (Members.get? members (Text.ofString "reason"))
      (Members.get? members (Text.ofString "field")) (Members.get? members (Text.ofString "code"))
  | v => .other v

/-- The same validation errors but for their order and for unknown members. -/
inductive SameErrors : Option Value → Option Value → Prop where
  | refl (errors : Option Value) : SameErrors errors errors
  | perm {front back : List Value} (same : (front.map itemView).Perm (back.map itemView)) :
    SameErrors (some (.array front)) (some (.array back))

/-- The same payload but for the order of its validation errors and for unknown members. -/
inductive SamePayload : Value → Value → Prop where
  | refl (v : Value) : SamePayload v v
  | object {front back : List (Text × Value)}
    (code : Members.get? front (Text.ofString "code") = Members.get? back (Text.ofString "code"))
    (reason :
      Members.get? front (Text.ofString "reason") = Members.get? back (Text.ofString "reason"))
    (errors : SameErrors (Members.get? front (Text.ofString "validationErrors"))
      (Members.get? back (Text.ofString "validationErrors"))) :
    SamePayload (.object front) (.object back)

theorem SameErrors.symm {front back : Option Value} (same : SameErrors front back) :
    SameErrors back front := by
  cases same with
  | refl => exact .refl _
  | perm same => exact .perm same.symm

theorem SamePayload.symm {v w : Value} (same : SamePayload v w) : SamePayload w v := by
  cases same with
  | refl => exact .refl _
  | object code reason errors => exact .object code.symm reason.symm errors.symm

theorem isValidationError_of_view {a b : Value} (same : itemView a = itemView b)
    (form : IsValidationError a) : IsValidationError b := by
  obtain ⟨members, rfl, ⟨t, present⟩, field, code⟩ := form
  cases b with
  | scalar | array => cases same
  | object others =>
      injection same with sameReason sameField sameCode
      refine ⟨others, rfl, ⟨t, sameReason ▸ present⟩, ?_, ?_⟩
      · exact fun v found => field v (sameField ▸ found)
      · exact fun v found => code v (sameCode ▸ found)

theorem hasReason_of_view {a b : Value} (same : itemView a = itemView b) {reason : String}
    (has : HasReason reason a) : HasReason reason b := by
  obtain ⟨members, rfl, present⟩ := has
  cases b with
  | scalar | array => cases same
  | object others =>
      injection same with sameReason
      exact ⟨others, rfl, sameReason ▸ present⟩

/-- The validation errors of the one payload are all among those of the other. -/
theorem SameErrors.items {front back : Option Value} (same : SameErrors front back)
    {items : List Value} (present : front = some (.array items)) :
    ∃ others, back = some (.array others) ∧
      (∀ other ∈ others, ∃ item ∈ items, itemView item = itemView other) ∧
      ∀ item ∈ items, ∃ other ∈ others, itemView item = itemView other := by
  cases same with
  | refl =>
      exact ⟨items, present, fun item inside => ⟨item, inside, rfl⟩,
        fun item inside => ⟨item, inside, rfl⟩⟩
  | @perm front back same =>
      cases present
      refine ⟨back, rfl, ?_, ?_⟩
      · intro other inside
        exact List.mem_map.mp (same.mem_iff.mpr (List.mem_map_of_mem inside))
      · intro item inside
        obtain ⟨other, known, view⟩ :=
          List.mem_map.mp (same.mem_iff.mp (List.mem_map_of_mem inside))
        exact ⟨other, known, view.symm⟩

theorem isPayload_of_same {v w : Value} (same : SamePayload v w) (form : IsPayload v) :
    IsPayload w := by
  cases same with
  | refl => exact form
  | @object front back sameCode sameReason errors =>
      obtain ⟨_, items, ⟨rfl⟩, present, each, code, reason⟩ := form
      obtain ⟨others, again, known, -⟩ := errors.items present
      refine ⟨back, others, rfl, again, ?_, ?_, ?_⟩
      · intro other inside
        obtain ⟨item, known, view⟩ := known other inside
        exact isValidationError_of_view view (each item known)
      · exact fun v found => code v (sameCode ▸ found)
      · exact fun v found => reason v (sameReason ▸ found)

theorem hasItemWithReason_of_same {v w : Value} (same : SamePayload v w) {reason : String}
    (has : HasItemWithReason reason v) : HasItemWithReason reason w := by
  cases same with
  | refl => exact has
  | @object front back sameCode sameReason errors =>
      obtain ⟨_, items, ⟨rfl⟩, present, item, inside, has⟩ := has
      obtain ⟨others, again, -, known⟩ := errors.items present
      obtain ⟨other, known, view⟩ := known item inside
      exact ⟨back, others, rfl, again, other, known, hasReason_of_view view has⟩

theorem verdict_of_same {v w : Value} (same : SamePayload v w) :
    verdict (some v) = verdict (some w) := by
  by_cases form : IsPayload v
  · obtain ⟨first, given, known⟩ := verdict_of_isPayload form
    obtain ⟨second, again, other⟩ := verdict_of_isPayload (isPayload_of_same same form)
    have agree : first = second := by
      rw [Bool.eq_iff_iff, known, other]
      exact ⟨hasItemWithReason_of_same same, hasItemWithReason_of_same same.symm⟩
    rw [given, again, agree]
  · have malformed : ¬ IsPayload w := fun other => form (isPayload_of_same same.symm other)
    rw [verdict_of_not_isPayload form, verdict_of_not_isPayload malformed]

theorem isLiquidityError_of_readGiven {limit : ℕ} {s : String} {payload : Option Value}
    (done : readGiven limit (some s) = .ok payload) :
    isLiquidityError limit (some s) = (verdict payload).mapError .access := by
  rw [isLiquidityError, done]
  rfl

theorem isLiquidityError_of_spells {limit : ℕ} {s : String} {v : Value} (flat : nesting s ≤ limit)
    (spells : Spells s v) :
    isLiquidityError limit (some s) = (verdict (some v)).mapError .access := by
  have done : read limit s = .ok v := read_eq_ok_iff.mpr ⟨spells, flat⟩
  exact isLiquidityError_of_readGiven (by rw [readGiven, done])

theorem isLiquidityError_of_not_tooDeep {limit : ℕ} {s : String}
    (shallow : ¬ ∃ container, read limit s = .error (.tooDeep container)) :
    ∃ answer, isLiquidityError limit (some s) = .ok answer ∧
      (answer.value = true ↔ ∃ v, Spells s v ∧ TellsOfLiquidity v) := by
  rcases readGiven_of_not_tooDeep shallow with ⟨v, spells, done⟩ | ⟨unreadable, done⟩
  · obtain ⟨answer, given, known⟩ := verdict_of_value v
    refine ⟨answer, ?_, known.trans ?_⟩
    · rw [isLiquidityError_of_readGiven done, given]
      rfl
    · constructor
      · exact fun tells => ⟨v, spells, tells⟩
      · rintro ⟨w, other, tells⟩
        rwa [spells.unique other]
  · refine ⟨_, isLiquidityError_of_readGiven done, iff_of_false Bool.false_ne_true ?_⟩
    rintro ⟨v, spells, -⟩
    exact unreadable ⟨v, spells⟩

theorem isLiquidityError_of_nesting {limit : ℕ} {s : String} (flat : nesting s ≤ limit) :
    ∃ answer, isLiquidityError limit (some s) = .ok answer ∧
      (answer.value = true ↔ ∃ v, Spells s v ∧ TellsOfLiquidity v) :=
  isLiquidityError_of_not_tooDeep (not_tooDeep_of_nesting flat)

theorem isLiquidityError_cases (limit : ℕ) (s : String) :
    (∃ v answer, read limit s = .ok v ∧ isLiquidityError limit (some s) = .ok answer ∧
      (answer.value = true ↔ TellsOfLiquidity v)) ∨
    (∃ answer, isLiquidityError limit (some s) = .ok answer ∧ answer.value = false) ∨
    ∃ failure, isLiquidityError limit (some s) = .error (.reading failure) := by
  cases done : read limit s with
  | ok v =>
      left
      obtain ⟨answer, given, known⟩ := verdict_of_value v
      refine ⟨v, answer, rfl, ?_, known⟩
      rw [isLiquidityError_of_readGiven (by rw [readGiven, done]), given]
      rfl
  | error failure =>
      right
      rw [isLiquidityError, readGiven, done]
      cases failure with
      | tooDeep container => exact Or.inr ⟨_, rfl⟩
      | unreadable | tooManyDigits digits => exact Or.inl ⟨_, rfl, rfl⟩

theorem isDocument_of_isLiquidityError {limit : ℕ} {s : String} {answer : Logged Bool}
    (given : isLiquidityError limit (some s) = .ok answer) (positive : answer.value = true) :
    isDocument limit (some s) = .ok true := by
  rcases isLiquidityError_cases limit s with ⟨v, found, done, again, known⟩ | ⟨found, again, no⟩ |
    ⟨failure, again⟩
  · rw [given] at again
    cases again
    obtain ⟨⟨members, items, rfl, -⟩, -⟩ := known.mp positive
    exact isDocument_of_read done
  · rw [given] at again
    cases again
    rw [no] at positive
    cases positive
  · rw [given] at again
    cases again

theorem isLiquidityError_ne_access (limit : ℕ) (s : String) (error : AccessError) :
    isLiquidityError limit (some s) ≠ .error (.access error) := by
  intro failed
  rcases isLiquidityError_cases limit s with ⟨v, found, done, again, -⟩ | ⟨found, again, -⟩ |
    ⟨failure, again⟩
  all_goals
    rw [failed] at again
    cases again

/-- Where the host has room for 500 containers a text that is not nested deeper than that tells of
missing liquidity exactly if it spells a payload that does, however the payload is spelled, whatever
the order of its validation errors and whatever unknown members it has; one item without the form
spoils it. Only objects do, and no look into a payload fails. -/
theorem liquidity_errors_detected (limit : ℕ) (room : 500 ≤ limit) :
    (∀ s, nesting s ≤ 500 → ∃ answer, isLiquidityError limit (some s) = .ok answer ∧
      (answer.value = true ↔ ∃ v, Spells s v ∧ TellsOfLiquidity v)) ∧
    (∀ s t v w, nesting s ≤ 500 → nesting t ≤ 500 → Spells s v → Spells t w → SamePayload v w →
      isLiquidityError limit (some s) = isLiquidityError limit (some t)) ∧
    (∀ s answer, isLiquidityError limit (some s) = .ok answer → answer.value = true →
      isDocument limit (some s) = .ok true) ∧
    (∀ s members items, nesting s ≤ 500 → Spells s (.object members) →
      Members.get? members (Text.ofString "validationErrors") = some (.array items) →
      (∃ item ∈ items, ¬ IsValidationError item) →
      ∃ answer, isLiquidityError limit (some s) = .ok answer ∧ answer.value = false) ∧
    ∀ s error, isLiquidityError limit (some s) ≠ .error (.access error) := by
  refine ⟨fun _ flat => isLiquidityError_of_nesting (flat.trans room), ?_,
    fun _ _ => isDocument_of_isLiquidityError, ?_, isLiquidityError_ne_access limit⟩
  · intro s t v w flat again spells other same
    rw [isLiquidityError_of_spells (flat.trans room) spells,
      isLiquidityError_of_spells (again.trans room) other, verdict_of_same same]
  · intro s members items flat spells present ⟨item, inside, malformed⟩
    have spoiled : ¬ IsPayload (.object members) := by
      rintro ⟨_, others, ⟨rfl⟩, again, each, -⟩
      rw [present] at again
      cases again
      exact malformed (each item inside)
    rw [isLiquidityError_of_spells (flat.trans room) spells, verdict_of_not_isPayload spoiled]
    exact ⟨_, rfl, rfl⟩

def plainError : String :=
  "\x7b\"validationErrors\":[\x7b\"reason\":\"INSUFFICIENT_ASSET_LIQUIDITY\"\x7d]\x7d"

/-- The same error with an escape and an unknown member. -/
def escapedError : String :=
  "\x7b\"validationErrors\":[\x7b\"x\":0,\"reason\":\"\\u0049NSUFFICIENT_ASSET_LIQUIDITY\"\x7d]\x7d"

/-- The same error beside a number. -/
def spoiledError : String :=
  "\x7b\"validationErrors\":[\x7b\"reason\":\"INSUFFICIENT_ASSET_LIQUIDITY\"\x7d,1]\x7d"

theorem liquidity_errors_detected_of_three_texts :
    500 ≤ 990 ∧
    (∃ answer, isLiquidityError 990 (some plainError) = .ok answer ∧ answer.value = true) ∧
    isLiquidityError 990 (some plainError) = isLiquidityError 990 (some escapedError) ∧
    isDocument 990 (some plainError) = .ok true ∧
    ∃ answer, isLiquidityError 990 (some spoiledError) = .ok answer ∧ answer.value = false := by
  have room : 500 ≤ 990 := by decide
  obtain ⟨detected, independent, document, spoiled, -⟩ := liquidity_errors_detected 990 room
  let key (s : String) : Token := .scalar (.text (Text.ofString s))
  have plainTokens : scan .between plainError.toList =
      [.openObject, key "validationErrors", .colon, .openArray, .openObject, key "reason", .colon,
        key "INSUFFICIENT_ASSET_LIQUIDITY", .closeObject, .closeArray, .closeObject] := by
    decide +kernel
  have escapedTokens : scan .between escapedError.toList =
      [.openObject, key "validationErrors", .colon, .openArray, .openObject, key "x", .colon,
        .scalar (.int 0), .comma, key "reason", .colon, key "INSUFFICIENT_ASSET_LIQUIDITY",
        .closeObject, .closeArray, .closeObject] := by
    decide +kernel
  have spoiledTokens : scan .between spoiledError.toList =
      [.openObject, key "validationErrors", .colon, .openArray, .openObject, key "reason", .colon,
        key "INSUFFICIENT_ASSET_LIQUIDITY", .closeObject, .comma, .scalar (.int 1), .closeArray,
        .closeObject] := by
    decide +kernel
  have plain : Spells plainError (.record [("validationErrors",
      .array [.record [("reason", .text "INSUFFICIENT_ASSET_LIQUIDITY")]])]) :=
    spells_of_steps 990 plainTokens rfl
  have escaped : Spells escapedError (.record [("validationErrors",
      .array [.record [("x", .scalar (.int 0)),
        ("reason", .text "INSUFFICIENT_ASSET_LIQUIDITY")]])]) :=
    spells_of_steps 990 escapedTokens rfl
  have beside : Spells spoiledError (.record [("validationErrors",
      .array [.record [("reason", .text "INSUFFICIENT_ASSET_LIQUIDITY")], .scalar (.int 1)])]) :=
    spells_of_steps 990 spoiledTokens rfl
  have tells : TellsOfLiquidity (.record [("validationErrors",
      .array [.record [("reason", .text "INSUFFICIENT_ASSET_LIQUIDITY")]])]) :=
    ⟨(accepts_payloadSchema_iff _).mp (by decide +kernel),
      _, _, rfl, rfl, _, List.mem_singleton_self _, _, rfl, rfl⟩
  have flat : nesting plainError ≤ 500 ∧ nesting escapedError ≤ 500 ∧ nesting spoiledError ≤ 500 :=
    by decide +kernel
  obtain ⟨answer, given, known⟩ := detected plainError flat.1
  have positive : answer.value = true := known.mpr ⟨_, plain, tells⟩
  refine ⟨room, ⟨answer, given, positive⟩, ?_, document _ _ given positive, ?_⟩
  · exact independent _ _ _ _ flat.1 flat.2.1 plain escaped (.object rfl rfl (.perm (.refl _)))
  · refine spoiled _ _ _ flat.2.2 beside rfl ⟨.scalar (.int 1), by simp, ?_⟩
    rintro ⟨members, ⟨⟩, -⟩

end WalletKit.Swap
