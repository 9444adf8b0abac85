import WalletKit.Numeral.ParseError

set_option autoImplicit false

namespace WalletKit.Numeral

/-- The longest run of decimal digits that is read. -/
def maxDecimalDigits : Nat := 4300

def limitMessage (digits : Nat) : String :=
  s!"Exceeds the limit ({maxDecimalDigits} digits) for integer string conversion: " ++
    s!"value has {digits} digits; use sys.set_int_max_str_digits() to increase the limit"

def readDecimal (s : String) : Except ParseError Nat :=
  match read? .ten s.toList with
  | none => .error ⟨s, .ten, .malformed⟩
  | some n => if s.length ≤ maxDecimalDigits then .ok n else .error ⟨s, .ten, .tooManyDigits⟩

def readHex (s : String) : Except ParseError Nat :=
  match read? .sixteen s.toList with
  | none => .error ⟨s, .sixteen, .malformed⟩
  | some n => .ok n

def withinLimit : Base → Nat → Bool
  | .ten, length => length ≤ maxDecimalDigits
  | .sixteen, _ => true

def tryRead (base : Base) (s : String) : Option Nat :=
  if withinLimit base s.length then read? base s.toList else none

end WalletKit.Numeral

namespace WalletKit

structure UnsupportedRadix where
  radix : Int
  deriving DecidableEq, Repr

def UnsupportedRadix.message (e : UnsupportedRadix) : String :=
  s!"Unsupported base: {e.radix}"

def Base.ofRadix (radix : Int) : Except UnsupportedRadix Base :=
  if radix = 10 then .ok .ten
  else if radix = 16 then .ok .sixteen
  else .error ⟨radix⟩

end WalletKit
