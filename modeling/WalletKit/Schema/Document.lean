import WalletKit.Schema.Basic

set_option autoImplicit false

namespace WalletKit.Schema.Document

open Json

def isText : Value → Bool := Kind.string.accepts

def isCount : Value → Bool
  | .scalar (.int n) => 0 ≤ n
  | .scalar (.double x) => x.isWhole && !x.isNegative
  | _ => false

def isKindName (v : Value) : Bool :=
  match v with
  | .scalar (.text t) => Kind.all.any fun k => Text.ofString k.name = t
  | _ => false

def texts? : Value → Option (List Text)
  | .array items => items.mapM fun item =>
    match item with
    | .scalar (.text t) => some t
    | _ => none
  | _ => none

def isDistinctTexts (v : Value) : Bool :=
  match texts? v with
  | some ts => ts.Nodup
  | none => false

/-- One name of a kind, or a nonempty array of distinct ones. -/
def isKinds : Value → Bool
  | .array items => !items.isEmpty && items.all isKindName && isDistinctTexts (.array items)
  | v => isKindName v

inductive Form where
  | kinds
  | distinctTexts
  | text
  | count
  | array
  | schema
  | schemas
  deriving DecidableEq, Repr

def forms : List (String × Form) :=
  [("$schema", .text), ("$id", .text), ("title", .text), ("description", .text),
    ("type", .kinds), ("required", .distinctTexts), ("properties", .schemas), ("items", .schema),
    ("enum", .array), ("minLength", .count), ("maxLength", .count), ("minItems", .count),
    ("maxItems", .count)]

def form? (keyword : Text) : Option Form :=
  (forms.find? fun entry => Text.ofString entry.1 = keyword).map Prod.snd

mutual

def isSchema : Value → Bool
  | .scalar (.bool _) => true
  | .object members => keywordsHold members
  | _ => false

def keywordsHold : List (Text × Value) → Bool
  | [] => true
  | (keyword, v) :: rest =>
    (match form? keyword with
      | none => true
      | some .kinds => isKinds v
      | some .distinctTexts => isDistinctTexts v
      | some .text => isText v
      | some .count => isCount v
      | some .array => Kind.array.accepts v
      | some .schema => isSchema v
      | some .schemas => areSchemas v) && keywordsHold rest

def areSchemas : Value → Bool
  | .object members => allSchemas members
  | _ => false

def allSchemas : List (Text × Value) → Bool
  | [] => true
  | (_, v) :: rest => isSchema v && allSchemas rest

end

end WalletKit.Schema.Document
