import WalletKit.Numeral.Writing

set_option autoImplicit false

namespace WalletKit.Transaction

def byte? (high low : Char) : Option UInt8 :=
  match Base.sixteen.digit? high, Base.sixteen.digit? low with
  | some h, some l => some (UInt8.ofNat (16 * h + l))
  | _, _ => none

/-- The bytes of digit pairs, those already found being `done`, last first. -/
def bytes? (done : List UInt8) : List Char → Option (List UInt8)
  | [] => some done.reverse
  | [_] => none
  | high :: low :: rest =>
    match byte? high low with
    | some b => bytes? (b :: done) rest
    | none => none

/-- The bytes that a text writes. A text of odd length is refused for it, whatever it holds. -/
def calldata (s : String) : Except ParseError (List UInt8) :=
  let digits := (Numeral.dropHexMark s).toList
  if digits.length % 2 = 1 then .error ⟨s, .sixteen, .oddLength⟩
  else
    match bytes? [] digits with
    | some bytes => .ok bytes
    | none => .error ⟨s, .sixteen, .malformed⟩

def hexOfBytes (bytes : List UInt8) : String :=
  String.ofList (bytes.flatMap fun b => Text.paddedHex 2 b.toNat)

end WalletKit.Transaction
