import WalletKit.Numeral.Reading

set_option autoImplicit false

namespace WalletKit.Numeral

def hexMark : String := "0x"

/-- The text behind one leading hex mark, or the text itself if it has none. -/
def dropHexMark (s : String) : String :=
  match s.toList with
  | '0' :: 'x' :: rest => String.ofList rest
  | _ => s

def hasHexMark (s : String) : Bool :=
  match s.toList with
  | '0' :: 'x' :: _ => true
  | _ => false

def hex (n : Nat) : String := String.ofList ('0' :: 'x' :: Nat.toDigits 16 n)

def decimal (n : Nat) : String := String.ofList (Nat.toDigits 10 n)

def signedDecimal (v : Int) : String :=
  if v < 0 then String.ofList ('-' :: Nat.toDigits 10 v.natAbs) else decimal v.natAbs

structure NegativeAmount where
  value : Int
  deriving DecidableEq, Repr

/-- Numbers of up to `maxDecimalDigits` digits appear in the message, longer ones do not. -/
def NegativeAmount.message (e : NegativeAmount) : String :=
  if (Nat.toDigits 10 e.value.natAbs).length ≤ maxDecimalDigits then
    "Amount cannot be negative: " ++ signedDecimal e.value
  else
    "Exceeds the limit (4300 digits) for integer string conversion; " ++
      "use sys.set_int_max_str_digits() to increase the limit"

def signedHex (v : Int) : Except NegativeAmount String :=
  if v < 0 then .error ⟨v⟩ else .ok (hex v.natAbs)

end WalletKit.Numeral
