import WalletKit.Json.Display

set_option autoImplicit false

namespace WalletKit

open Json

inductive Kind where
  | null
  | boolean
  | integer
  | number
  | string
  | array
  | object
  deriving DecidableEq, Repr

namespace Kind

def all : List Kind := [.null, .boolean, .integer, .number, .string, .array, .object]

def name : Kind → String
  | .null => "null"
  | .boolean => "boolean"
  | .integer => "integer"
  | .number => "number"
  | .string => "string"
  | .array => "array"
  | .object => "object"

/-- Integers are whole in value: `1.0` is one, a truth value is none. -/
def accepts : Kind → Value → Bool
  | .null, .scalar .null => true
  | .boolean, .scalar (.bool _) => true
  | .integer, .scalar (.int _) => true
  | .integer, .scalar (.double x) => x.isWhole
  | .number, .scalar (.int _) => true
  | .number, .scalar (.double _) => true
  | .string, .scalar (.text _) => true
  | .array, .array _ => true
  | .object, .object _ => true
  | _, _ => false

end Kind

inductive Step where
  | key (name : Text)
  | index (i : Nat)
  deriving DecidableEq, Repr

/-- Demands on a value, each with those that follow it. `member` looks only at objects that have
the member, `required` only at objects, and `each` only at arrays. -/
inductive Schema where
  | anything
  | kind (k : Kind) (rest : Schema)
  | required (name : String) (rest : Schema)
  | member (name : String) (inner rest : Schema)
  | each (inner rest : Schema)
  deriving DecidableEq, Repr

namespace Schema

inductive Cause where
  | wrongKind (found : Value) (wanted : Kind)
  | missingMember (name : String)
  deriving Repr

namespace Cause

def keyword : Cause → String
  | .wrongKind _ _ => "type"
  | .missingMember _ => "required"

/-- Idealised in one respect: the host gives up on showing a value with a whole number of more than
`maxDecimalDigits` digits, or one nested deeper than it can follow. -/
def message : Cause → String
  | .wrongKind found wanted =>
    String.ofList found.display ++ " is not of type " ++ Text.quoted wanted.name
  | .missingMember name => Text.quoted name ++ " is a required property"

end Cause

structure Fault where
  path : List Step := []
  schemaPath : List Step
  cause : Cause
  deriving Repr

namespace Fault

def here (cause : Cause) : Fault :=
  { schemaPath := [.key (Text.ofString cause.keyword)], cause }

/-- The same fault seen from the value and the schema around. -/
def inside (step : Step) (schemaSteps : List Step) (fault : Fault) : Fault :=
  { fault with path := step :: fault.path, schemaPath := schemaSteps ++ fault.schemaPath }

def inMember (name : Text) : Fault → Fault :=
  inside (.key name) [.key (Text.ofString "properties"), .key name]

def inItem (i : Nat) : Fault → Fault := inside (.index i) [.key (Text.ofString "items")]

end Fault

def faults : Schema → Value → List Fault
  | .anything, _ => []
  | .kind k rest, v =>
    (if k.accepts v then [] else [.here (.wrongKind v k)]) ++ rest.faults v
  | .required name rest, v =>
    (match v with
      | .object members =>
        if (Members.get? members (Text.ofString name)).isSome then []
        else [.here (.missingMember name)]
      | _ => []) ++ rest.faults v
  | .member name inner rest, v =>
    (match v with
      | .object members =>
        match Members.get? members (Text.ofString name) with
        | some found => (inner.faults found).map (.inMember (Text.ofString name))
        | none => []
      | _ => []) ++ rest.faults v
  | .each inner rest, v =>
    (match v with
      | .array items =>
        items.zipIdx.flatMap fun (item, i) => (inner.faults item).map (.inItem i)
      | _ => []) ++ rest.faults v

def accepts (schema : Schema) (v : Value) : Bool := (schema.faults v).isEmpty

/-- Refuses a value with its first fault. -/
def validate (schema : Schema) (v : Value) : Except Fault Unit :=
  match schema.faults v with
  | [] => .ok ()
  | fault :: _ => .error fault

end Schema

end WalletKit
