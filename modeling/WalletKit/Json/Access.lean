import WalletKit.Json.Value

set_option autoImplicit false

namespace WalletKit.Json

inductive AccessError where
  | missingKey (key : String)
  | notSubscriptable
  | notIterable
  deriving DecidableEq, Repr

namespace Value

def member (key : String) : Value → Except AccessError Value
  | .object members =>
    match Members.get? members (Text.ofString key) with
    | some v => .ok v
    | none => .error (.missingKey key)
  | _ => .error .notSubscriptable

/-- What a loop over a value runs through: the items of an array, the keys of an object or the
characters of a text. -/
def elements : Value → Except AccessError (List Value)
  | .array items => .ok items
  | .object members => .ok (members.map fun member => .scalar (.text member.1))
  | .scalar (.text t) => .ok (t.map fun p => .scalar (.text [p]))
  | .scalar _ => .error .notIterable

def isText (s : String) : Value → Bool
  | .scalar (.text t) => t = Text.ofString s
  | _ => false

end Value

end WalletKit.Json
