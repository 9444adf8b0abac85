import WalletKit.Decimal.Quotient

set_option autoImplicit false

namespace WalletKit

/-- A double-precision number. A finite one is `mantissa * 2 ^ exponent`; its mantissa has all 53
bits unless the exponent is the least one. -/
inductive Binary64 where
  | finite (negative : Bool) (mantissa : Nat) (exponent : Int)
  | infinite (negative : Bool)
  | nan
  deriving DecidableEq, Repr

namespace Binary64

def minExponent : Int := -1074

def maxExponent : Int := 971

def zero (negative : Bool) : Binary64 := .finite negative 0 minExponent

/-- The greatest `e` with `2 ^ e ≤ n / d`, for positive `n` and `d`. -/
def floorLog2 (n d : Nat) : Int :=
  let e : Int := n.log2 - d.log2
  if d * Nat.pow 2 e.toNat ≤ n * Nat.pow 2 (-e).toNat then e else e - 1

/-- The number nearest to `n / d` or its negative, for positive `n` and `d`; a tie goes to the even
mantissa, and what rounds beyond the largest number is infinite. -/
def nearest (negative : Bool) (n d : Nat) : Binary64 :=
  let exponent := max minExponent (floorLog2 n d - 52)
  let mantissa := roundHalfEven (n * Nat.pow 2 (-exponent).toNat) (d * Nat.pow 2 exponent.toNat)
  let (mantissa, exponent) :=
    if mantissa = Nat.pow 2 53 then (Nat.pow 2 52, exponent + 1) else (mantissa, exponent)
  if maxExponent < exponent then .infinite negative else .finite negative mantissa exponent

/-- The number nearest to `digits * 10 ^ scale` or its negative. Decimals beyond `10 ^ 310` are
infinite and those below `10 ^ (-330)` zero, so no larger power of ten is formed. -/
def ofDecimal (negative : Bool) (digits : Nat) (scale : Int) : Binary64 :=
  if digits = 0 then zero negative
  else
    let size : Int := (Nat.toDigits 10 digits).length + scale
    if 310 < size then .infinite negative
    else if size < -330 then zero negative
    else nearest negative (digits * Nat.pow 10 scale.toNat) (Nat.pow 10 (-scale).toNat)

def isWhole : Binary64 → Bool
  | .finite _ mantissa exponent => mantissa % Nat.pow 2 (-exponent).toNat = 0
  | _ => false

def isNegative : Binary64 → Bool
  | .finite negative mantissa _ => negative && mantissa ≠ 0
  | .infinite negative => negative
  | .nan => false

end Binary64

end WalletKit
