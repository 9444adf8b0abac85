import WalletKit.Numeral.Writing

set_option autoImplicit false

namespace WalletKit.Record

/-- What may be given for a field. A text stands for its UTF-8 bytes, and bytes for the text that
they are in UTF-8. -/
inductive Input where
  | text (s : String)
  | bytes (b : List UInt8)
  | other
  deriving DecidableEq, Repr

/-- What is given for a record, by the names of fields. The first entry of a name counts, and names
that are no field of the record count for nothing. -/
abbrev Fields := List (String × Input)

def Fields.get? (fields : Fields) (name : String) : Option Input :=
  (fields.find? fun entry => entry.1 = name).map Prod.snd

inductive Cause where
  | missing
  | notText
  | notUnicode
  | notBytes
  | empty
  | unmarked (text : String)
  deriving DecidableEq, Repr

def Cause.message : Cause → String
  | .missing => "Field required"
  | .notText => "Input should be a valid string"
  | .notUnicode =>
    "Input should be a valid string, unable to parse raw data as a unicode string"
  | .notBytes => "Input should be a valid bytes"
  | .empty => "String should have at least 1 character"
  | .unmarked text =>
    "Value error, Hex quantity must start with " ++ Text.quoted Numeral.hexMark ++ ": " ++
      Text.quoted text

structure Fault where
  field : String
  cause : Cause
  deriving DecidableEq, Repr

def asText : Input → Except Cause String
  | .text s => .ok s
  | .bytes b =>
    match String.fromUTF8? ⟨b.toArray⟩ with
    | some s => .ok s
    | none => .error .notUnicode
  | .other => .error .notText

def asBytes : Input → Except Cause (List UInt8)
  | .text s => .ok s.toUTF8.toList
  | .bytes b => .ok b
  | .other => .error .notBytes

def requiredText : Option Input → Except Cause String
  | none => .error .missing
  | some input => asText input

def nonemptyText (given : Option Input) : Except Cause String :=
  match requiredText given with
  | .ok s => if s = "" then .error .empty else .ok s
  | .error cause => .error cause

/-- A hexadecimal quantity, empty or marked as one; if none is given it is `default`. -/
def quantity (default : String) : Option Input → Except Cause String
  | none => .ok default
  | some input =>
    match asText input with
    | .ok s => if s = "" ∨ Numeral.hasHexMark s then .ok s else .error (.unmarked s)
    | .error cause => .error cause

def optionalBytes : Option Input → Except Cause (List UInt8)
  | none => .ok []
  | some input => asBytes input

def faultOf {α : Type} (field : String) : Except Cause α → List Fault
  | .ok _ => []
  | .error cause => [⟨field, cause⟩]

end WalletKit.Record
