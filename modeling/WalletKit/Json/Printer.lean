import WalletKit.Binary64.Shortest
import WalletKit.Json.Value
import WalletKit.Text.Quoted

set_option autoImplicit false

namespace WalletKit.Json

def escapeUnit (n : Nat) : List Char := '\\' :: 'u' :: Text.paddedHex 4 n

def printCodePoint (p : CodePoint) : List Char :=
  let n := p.val
  if n = '"'.toNat then ['\\', '"']
  else if n = '\\'.toNat then ['\\', '\\']
  else if 0x20 ≤ n ∧ n < 0x7f then [Char.ofNat n]
  else if n < 0x10000 then escapeUnit n
  else
    escapeUnit (0xd800 + (n - 0x10000) / 0x400) ++ escapeUnit (0xdc00 + (n - 0x10000) % 0x400)

def printText (t : Text) : List Char := '"' :: (t.flatMap printCodePoint ++ ['"'])

def Scalar.print : Scalar → List Char
  | .null => "null".toList
  | .bool true => "true".toList
  | .bool false => "false".toList
  | .int n => (if n < 0 then ['-'] else []) ++ Nat.toDigits 10 n.natAbs
  | .double .nan => "NaN".toList
  | .double (.infinite false) => "Infinity".toList
  | .double (.infinite true) => "-Infinity".toList
  | .double x => x.text
  | .text t => printText t

namespace Value

mutual

def print : Value → List Char
  | .scalar a => a.print
  | .array items => '[' :: printItems items ++ [']']
  | .object members => '\x7b' :: printMembers members ++ ['\x7d']

def printItems : List Value → List Char
  | [] => []
  | [v] => print v
  | v :: w :: rest => print v ++ ',' :: printItems (w :: rest)

def printMembers : List (Text × Value) → List Char
  | [] => []
  | [(key, v)] => printText key ++ ':' :: print v
  | (key, v) :: next :: rest =>
    printText key ++ ':' :: print v ++ ',' :: printMembers (next :: rest)

end

end Value

end WalletKit.Json
