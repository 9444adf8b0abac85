import WalletKit.Proofs.Transaction.Quantities

set_option autoImplicit false

namespace WalletKit.Record

open Numeral Transaction

theorem toList_loop_eq (bytes : ByteArray) (i : ℕ) (done : List UInt8) :
    ByteArray.toList.loop bytes i done = done.reverse ++ bytes.data.toList.drop i := by
  fun_induction ByteArray.toList.loop bytes i done with
  | case1 i done inside ih =>
      have bound : i < bytes.data.toList.length := inside
      have next : bytes.get! i = bytes.data.toList[i] := by
        simp [ByteArray.get!, inside]
      rw [ih, List.drop_eq_getElem_cons bound, List.reverse_cons, List.append_assoc, next,
        List.singleton_append]
  | case2 i done outside =>
      have all : bytes.data.toList.length ≤ i := Nat.le_of_not_lt outside
      rw [List.drop_eq_nil_of_le all, List.append_nil]

theorem toList_eq_data (bytes : ByteArray) : bytes.toList = bytes.data.toList :=
  toList_loop_eq bytes 0 []

theorem fromUTF8?_eq_some_iff {bytes : ByteArray} {s : String} :
    String.fromUTF8? bytes = some s ↔ bytes = s.toUTF8 := by
  constructor
  · intro decoded
    unfold String.fromUTF8? at decoded
    split at decoded
    · cases decoded
      rfl
    · cases decoded
  · rintro rfl
    exact dif_pos s.isValidUTF8

/-- The input is the text, or its bytes in UTF-8. -/
def Input.IsText (input : Input) (s : String) : Prop :=
  input = .text s ∨ input = .bytes s.toUTF8.toList

/-- The input is the bytes, or the text that they are in UTF-8. -/
def Input.IsBytes (input : Input) (b : List UInt8) : Prop :=
  input = .bytes b ∨ ∃ s : String, input = .text s ∧ s.toUTF8.toList = b

theorem asText_of_isText {input : Input} {s : String} (given : input.IsText s) :
    asText input = .ok s := by
  rcases given with rfl | rfl
  · rfl
  · rw [toList_eq_data]
    exact asText_bytes s

theorem asText_of_invalid {b : List UInt8} (invalid : ∀ s : String, s.toUTF8.toList ≠ b) :
    asText (.bytes b) = .error .notUnicode := by
  rw [asText]
  cases decoded : String.fromUTF8? ⟨b.toArray⟩ with
  | none => rfl
  | some s =>
      have bytes := fromUTF8?_eq_some_iff.mp decoded
      exact absurd (by rw [← bytes, toList_eq_data]) (invalid s)

/-- Bytes that are no text, and what is neither text nor bytes, are all that is not read as one. -/
theorem isText_cases (input : Input) :
    (∃ s, input.IsText s) ∨ input = .other ∨
      ∃ b, input = .bytes b ∧ ∀ s : String, s.toUTF8.toList ≠ b := by
  cases input with
  | text s => exact Or.inl ⟨s, Or.inl rfl⟩
  | other => exact Or.inr (Or.inl rfl)
  | bytes b =>
      by_cases valid : ∃ s : String, s.toUTF8.toList = b
      · obtain ⟨s, rfl⟩ := valid
        exact Or.inl ⟨s, Or.inr rfl⟩
      · exact Or.inr (Or.inr ⟨b, rfl, fun s same => valid ⟨s, same⟩⟩)

theorem asBytes_ok_iff {input : Input} {b : List UInt8} :
    asBytes input = .ok b ↔ input.IsBytes b := by
  cases input <;> simp [asBytes, Input.IsBytes]

/-- What a field asks for; quantities and bytes need not be given. -/
inductive Demand where
  | text
  | nonemptyText
  | quantity (default : String)
  | bytes
  deriving DecidableEq, Repr

/-- What a field holds. -/
inductive Content where
  | text (s : String)
  | bytes (b : List UInt8)
  deriving DecidableEq, Repr

/-- What is given for a field to hold the content. -/
def Content.asInput : Content → Input
  | .text s => .text s
  | .bytes b => .bytes b

namespace Demand

/-- The field accepts what is given, and holds the content then. -/
inductive Takes : Demand → Option Input → Content → Prop where
  | text {input : Input} {s : String} (given : input.IsText s) :
    Takes .text (some input) (.text s)
  | nonemptyText {input : Input} {s : String} (given : input.IsText s) (filled : s ≠ "") :
    Takes .nonemptyText (some input) (.text s)
  | quantity {default : String} {input : Input} {s : String} (given : input.IsText s)
    (marked : MarkedQuantity s) : Takes (.quantity default) (some input) (.text s)
  | noQuantity (default : String) : Takes (.quantity default) none (.text default)
  | bytes {input : Input} {b : List UInt8} (given : input.IsBytes b) :
    Takes .bytes (some input) (.bytes b)
  | noBytes : Takes .bytes none (.bytes [])

/-- The field refuses what is given, and for this reason. -/
inductive Refuses : Demand → Option Input → Cause → Prop where
  | noText : Refuses .text none .missing
  | noNonemptyText : Refuses .nonemptyText none .missing
  | notText {demand : Demand} (wanted : demand ≠ .bytes) : Refuses demand (some .other) .notText
  | notUnicode {demand : Demand} {b : List UInt8} (wanted : demand ≠ .bytes)
    (invalid : ∀ s : String, s.toUTF8.toList ≠ b) : Refuses demand (some (.bytes b)) .notUnicode
  | empty {input : Input} (given : input.IsText "") : Refuses .nonemptyText (some input) .empty
  | unmarked {default : String} {input : Input} {s : String} (given : input.IsText s)
    (bare : ¬ MarkedQuantity s) : Refuses (.quantity default) (some input) (.unmarked s)
  | notBytes : Refuses .bytes (some .other) .notBytes

def Accepts (demand : Demand) (given : Option Input) : Prop :=
  ∃ content, demand.Takes given content

/-- The rule that a field is held to. -/
def check : Demand → Option Input → Except Cause Content
  | .text, given => (requiredText given).map .text
  | .nonemptyText, given => (Record.nonemptyText given).map .text
  | .quantity default, given => (Record.quantity default given).map .text
  | .bytes, given => (optionalBytes given).map .bytes

theorem check_of_takes {demand : Demand} {given : Option Input} {content : Content}
    (takes : demand.Takes given content) : demand.check given = .ok content := by
  cases takes with
  | text given =>
      rw [check, requiredText, asText_of_isText given]
      rfl
  | nonemptyText given filled =>
      rw [check, Record.nonemptyText, requiredText, asText_of_isText given]
      dsimp only
      rw [if_neg filled]
      rfl
  | quantity given marked =>
      rw [check, quantity_of_asText (asText_of_isText given) marked]
      rfl
  | bytes given =>
      rw [check, optionalBytes, asBytes_ok_iff.mpr given]
      rfl
  | noQuantity | noBytes => rfl

theorem check_of_refuses {demand : Demand} {given : Option Input} {cause : Cause}
    (refuses : demand.Refuses given cause) : demand.check given = .error cause := by
  cases refuses with
  | noText | noNonemptyText | notBytes => rfl
  | notText wanted =>
      cases demand with
      | text | nonemptyText | quantity => rfl
      | bytes => exact absurd rfl wanted
  | notUnicode wanted invalid =>
      cases demand with
      | bytes => exact absurd rfl wanted
      | text | nonemptyText | quantity =>
          simp only [check, requiredText, Record.nonemptyText, Record.quantity,
            asText_of_invalid invalid]
          rfl
  | empty given =>
      rw [check, Record.nonemptyText, requiredText, asText_of_isText given]
      rfl
  | unmarked given bare =>
      have unchecked := bare
      rw [MarkedQuantity, ← hasHexMark_iff] at unchecked
      rw [check, Record.quantity, asText_of_isText given]
      dsimp only
      rw [if_neg unchecked]
      rfl

/-- There is nothing that a field neither takes nor refuses. -/
theorem takes_or_refuses (demand : Demand) (given : Option Input) :
    demand.Accepts given ∨ ∃ cause, demand.Refuses given cause := by
  cases given with
  | none =>
      cases demand with
      | text => exact Or.inr ⟨_, .noText⟩
      | nonemptyText => exact Or.inr ⟨_, .noNonemptyText⟩
      | quantity default => exact Or.inl ⟨_, .noQuantity default⟩
      | bytes => exact Or.inl ⟨_, .noBytes⟩
  | some input =>
      by_cases bytes : demand = .bytes
      · rw [bytes]
        cases input with
        | text s => exact Or.inl ⟨_, .bytes (Or.inr ⟨s, rfl, rfl⟩)⟩
        | bytes b => exact Or.inl ⟨_, .bytes (Or.inl rfl)⟩
        | other => exact Or.inr ⟨_, .notBytes⟩
      · rcases isText_cases input with ⟨s, given⟩ | rfl | ⟨b, rfl, invalid⟩
        · cases demand with
          | bytes => exact absurd rfl bytes
          | text => exact Or.inl ⟨_, .text given⟩
          | nonemptyText =>
              by_cases empty : s = ""
              · rw [empty] at given
                exact Or.inr ⟨_, .empty given⟩
              · exact Or.inl ⟨_, .nonemptyText given empty⟩
          | quantity default =>
              by_cases marked : MarkedQuantity s
              · exact Or.inl ⟨_, .quantity given marked⟩
              · exact Or.inr ⟨_, .unmarked given marked⟩
        · exact Or.inr ⟨_, .notText bytes⟩
        · exact Or.inr ⟨_, .notUnicode bytes invalid⟩

theorem check_ok_iff {demand : Demand} {given : Option Input} {content : Content} :
    demand.check given = .ok content ↔ demand.Takes given content := by
  constructor
  · intro checked
    rcases demand.takes_or_refuses given with ⟨other, takes⟩ | ⟨cause, refuses⟩
    · rw [check_of_takes takes] at checked
      cases checked
      exact takes
    · rw [check_of_refuses refuses] at checked
      cases checked
  · exact check_of_takes

theorem check_error_iff {demand : Demand} {given : Option Input} {cause : Cause} :
    demand.check given = .error cause ↔ demand.Refuses given cause := by
  constructor
  · intro checked
    rcases demand.takes_or_refuses given with ⟨content, takes⟩ | ⟨other, refuses⟩
    · rw [check_of_takes takes] at checked
      cases checked
    · rw [check_of_refuses refuses] at checked
      cases checked
      exact refuses
  · exact check_of_refuses

theorem takes_text {given : Option Input} {s : String}
    (read : requiredText given = .ok s) : Demand.text.Takes given (.text s) :=
  check_ok_iff.mp (congrArg (Except.map Content.text) read)

theorem takes_nonemptyText {given : Option Input} {s : String}
    (read : Record.nonemptyText given = .ok s) : Demand.nonemptyText.Takes given (.text s) :=
  check_ok_iff.mp (congrArg (Except.map Content.text) read)

theorem takes_quantity {default : String} {given : Option Input} {s : String}
    (read : Record.quantity default given = .ok s) :
    (Demand.quantity default).Takes given (.text s) :=
  check_ok_iff.mp (congrArg (Except.map Content.text) read)

theorem takes_bytes {given : Option Input} {b : List UInt8}
    (read : optionalBytes given = .ok b) : Demand.bytes.Takes given (.bytes b) :=
  check_ok_iff.mp (congrArg (Except.map Content.bytes) read)

theorem accepts_of_check {demand : Demand} {given : Option Input} {content : Content}
    (checked : demand.check given = .ok content) : demand.Accepts given :=
  ⟨content, check_ok_iff.mp checked⟩

theorem not_accepts_of_check {demand : Demand} {given : Option Input} {cause : Cause}
    (checked : demand.check given = .error cause) : ¬ demand.Accepts given := by
  rintro ⟨content, takes⟩
  rw [check_of_takes takes] at checked
  cases checked

instance (demand : Demand) (given : Option Input) : Decidable (demand.Accepts given) :=
  match checked : demand.check given with
  | .ok _ => .isTrue (accepts_of_check checked)
  | .error _ => .isFalse (not_accepts_of_check checked)

end Demand

end WalletKit.Record
