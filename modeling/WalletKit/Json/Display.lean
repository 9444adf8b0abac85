import WalletKit.Binary64.Shortest
import WalletKit.Json.Value
import WalletKit.Text.Quoted

set_option autoImplicit false

namespace WalletKit.Json

def Scalar.display : Scalar → List Char
  | .null => "None".toList
  | .bool true => "True".toList
  | .bool false => "False".toList
  | .int n => (if n < 0 then ['-'] else []) ++ Nat.toDigits 10 n.natAbs
  | .double x => x.text
  | .text t => Text.quote t

namespace Value

mutual

def display : Value → List Char
  | .scalar a => a.display
  | .array items => '[' :: displayItems items ++ [']']
  | .object members => '\x7b' :: displayMembers members ++ ['\x7d']

def displayItems : List Value → List Char
  | [] => []
  | [v] => display v
  | v :: w :: rest => display v ++ ',' :: ' ' :: displayItems (w :: rest)

def displayMembers : List (Text × Value) → List Char
  | [] => []
  | [(key, v)] => Text.quote key ++ ':' :: ' ' :: display v
  | (key, v) :: next :: rest =>
    Text.quote key ++ ':' :: ' ' :: display v ++ ',' :: ' ' :: displayMembers (next :: rest)

end

end Value

end WalletKit.Json
