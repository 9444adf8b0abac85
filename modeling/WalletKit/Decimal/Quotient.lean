import WalletKit.Decimal.Basic

set_option autoImplicit false

namespace WalletKit

/-- `n / d` rounded to the nearest whole number, a half to the even neighbour. -/
def roundHalfEven (n d : Nat) : Nat :=
  let q := n / d
  let r := n % d
  if 2 * r < d then q
  else if d < 2 * r then q + 1
  else if q % 2 = 0 then q else q + 1

namespace Decimal

/-- Units and places of the same number without zeros at the end of the fraction. -/
def dropZeros (units : Nat) : Nat → Nat × Nat
  | 0 => (units, 0)
  | places + 1 => if units % 10 = 0 then dropZeros (units / 10) places else (units, places + 1)

/-- Units and places of `units * 10 ^ scale / 10 ^ places`; what exceeds the point is filled. -/
def shift (units scale places : Nat) : Nat × Nat :=
  if scale ≤ places then (units, places - scale) else (units * Nat.pow 10 (scale - places), 0)

/-- The largest power of ten that the leading digit of a quotient can stand for. Its negative is the
smallest one at which a quotient still has all its digits. -/
def maxExponent : Nat := 999999

/-- How many places a quotient has at most when it is rounded to `precision` digits. -/
def maxPlaces (precision : Nat) : Nat := maxExponent + (precision - 1)

def cutDigits (n places precision : Nat) : Nat :=
  max ((Nat.toDigits 10 n).length - precision) (places - maxPlaces precision)

/-- Units and places of `n / 10 ^ places` to `precision` significant digits. -/
def rounded (n places precision : Nat) : Nat × Nat :=
  let cut := cutDigits n places precision
  if n % Nat.pow 10 cut = 0 then dropZeros n places
  else
    let kept := roundHalfEven n (Nat.pow 10 cut)
    if kept = Nat.pow 10 precision then shift (Nat.pow 10 (precision - 1)) (cut + 1) places
    else shift kept cut places

/-- `v / 10 ^ places` to `precision` significant digits. What fits loses the zeros at the end of its
fraction, what is rounded keeps all its digits. -/
def quotient (v : Int) (places precision : Nat) : Decimal :=
  let (units, places) := rounded v.natAbs places precision
  ⟨v < 0, units, places⟩

def exceeds (x : Decimal) : Bool :=
  maxExponent + x.places + 1 < (Nat.toDigits 10 x.units).length

end Decimal

inductive DivisionError where
  | precisionOutOfRange
  | precisionBeyondWord
  | overflow
  deriving DecidableEq, Repr

namespace DivisionError

def message : DivisionError → String
  | .precisionOutOfRange => "valid range for prec is [1, MAX_PREC]"
  | .precisionBeyondWord => "Python int too large to convert to C ssize_t"
  | .overflow => "[<class 'decimal.Overflow'>]"

end DivisionError

namespace Decimal

def maxPrecision : Nat := 999999999999999999

/-- Signed words go from `-2 ^ 63` up to below `2 ^ 63`. -/
def wordBound : Int := 9223372036854775808

/-- The precision as a number of digits; it is at most `maxPrecision`, and a signed word. -/
def checkPrecision (precision : Int) : Except DivisionError Nat :=
  if precision < -wordBound ∨ wordBound ≤ precision then .error .precisionBeyondWord
  else if precision < 1 ∨ maxPrecision < precision then .error .precisionOutOfRange
  else .ok precision.toNat

/-- The text of `v / 10 ^ places` to `precision` significant digits. -/
def divide (v : Int) (places : Nat) (precision : Int) : Except DivisionError String := do
  let digits ← checkPrecision precision
  let result := quotient v places digits
  if result.exceeds then .error .overflow else .ok result.plain

end Decimal

end WalletKit
