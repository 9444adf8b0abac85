import WalletKit.Binary64.Basic
import WalletKit.Text.CodePoint

set_option autoImplicit false

namespace WalletKit.Json

inductive Scalar where
  | null
  | bool (b : Bool)
  | int (n : Int)
  | double (x : Binary64)
  | text (t : Text)
  deriving DecidableEq, Inhabited, Repr

inductive Value where
  | scalar (a : Scalar)
  | array (items : List Value)
  | object (members : List (Text × Value))
  deriving Inhabited, Repr

namespace Value

def text (s : String) : Value := .scalar (.text (Text.ofString s))

def record (members : List (String × Value)) : Value :=
  .object (members.map fun (key, value) => (Text.ofString key, value))

def isContainer : Value → Bool
  | .scalar _ => false
  | .array _ => true
  | .object _ => true

end Value

namespace Members

/-- The value of the first member called `key`. -/
def get? (members : List (Text × Value)) (key : Text) : Option Value :=
  (members.find? fun member => member.1 = key).map Prod.snd

theorem get?_append_cons_self {before : List (Text × Value)} {key : Text}
    (first : get? before key = none) (value : Value) (behind : List (Text × Value)) :
    get? (before ++ (key, value) :: behind) key = some value := by
  rw [get?, Option.map_eq_none_iff] at first
  rw [get?, List.find?_append, first]
  simp

theorem get?_append_cons_of_ne {key other : Text} (differs : other ≠ key)
    (before : List (Text × Value)) (value : Value) (behind : List (Text × Value)) :
    get? (before ++ (key, value) :: behind) other = get? (before ++ behind) other := by
  rw [get?, get?, List.find?_append, List.find?_append, List.find?_cons_of_neg]
  simp [Ne.symm differs]

/-- Sets the value of `key` in its place, or at the end if there is no such member. -/
def put (key : Text) (value : Value) : List (Text × Value) → List (Text × Value)
  | [] => [(key, value)]
  | member :: rest =>
    if member.1 = key then (key, value) :: rest else member :: put key value rest

/-- The members that pairs in the order of a text amount to. -/
def ofPairs (pairs : List (Text × Value)) : List (Text × Value) :=
  pairs.foldl (fun members pair => put pair.1 pair.2 members) []

end Members

end WalletKit.Json
