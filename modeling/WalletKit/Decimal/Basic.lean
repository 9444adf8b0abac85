set_option autoImplicit false

namespace WalletKit

/-- The number `units / 10 ^ places`, or its negative. -/
structure Decimal where
  negative : Bool
  units : Nat
  places : Nat
  deriving DecidableEq, Repr

namespace Decimal

/-- The digits of `n`, with zeros before them if they are fewer than `width`. -/
def paddedDigits (width n : Nat) : List Char :=
  let digits := Nat.toDigits 10 n
  List.replicate (width - digits.length) '0' ++ digits

/-- Integer part and fraction, the digits being cut before the last `places`. -/
def magnitude (units places : Nat) : List Char :=
  let digits := paddedDigits (places + 1) units
  let whole := digits.length - places
  if places = 0 then digits else digits.take whole ++ '.' :: digits.drop whole

def plain (x : Decimal) : String :=
  String.ofList (if x.negative then '-' :: magnitude x.units x.places
    else magnitude x.units x.places)

end Decimal

end WalletKit
