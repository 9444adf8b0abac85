import WalletKit.Numeral.Base
import WalletKit.Text.Quoted

set_option autoImplicit false

namespace WalletKit

namespace ParseError

inductive Reason where
  | malformed
  | tooManyDigits
  | severalPoints
  | fractionTooLong (digits decimals : Nat)
  | oddLength
  deriving DecidableEq, Repr

def Reason.text : Reason → String
  | .malformed => ""
  | .tooManyDigits => "too many digits"
  | .severalPoints => "more than one decimal point"
  | .fractionTooLong digits decimals =>
    s!"{digits} fractional digits exceed {decimals} decimals"
  | .oddLength => "odd number of hex digits"

/-- The message about any text, radix and reason; an empty reason adds nothing. -/
def describe (text : String) (radix : Int) (reason : String) : String :=
  let head := "Cannot parse " ++ Text.quoted text ++ " as a base-" ++ toString radix ++ " integer"
  if reason = "" then head else head ++ ": " ++ reason

end ParseError

structure ParseError where
  text : String
  base : Base
  reason : ParseError.Reason
  deriving DecidableEq, Repr

def ParseError.message (e : ParseError) : String :=
  describe e.text e.base.radix e.reason.text

end WalletKit
