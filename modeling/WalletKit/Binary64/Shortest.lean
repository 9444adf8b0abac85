import WalletKit.Binary64.Basic

set_option autoImplicit false

namespace WalletKit.Binary64

abbrev Fraction := Nat × Nat

def power (base : Nat) (e : Int) : Fraction := (Nat.pow base e.toNat, Nat.pow base (-e).toNat)

/-- The decimal exponent of the leading digit of `n / d`, for positive `n` and `d`. -/
def leadingExponent (n d : Nat) : Int :=
  let e : Int := (Nat.toDigits 10 n).length - (Nat.toDigits 10 d).length
  if d * Nat.pow 10 e.toNat ≤ n * Nat.pow 10 (-e).toNat then e else e - 1

/-- Whether `c` steps of `10 ^ k` round to `mantissa * 2 ^ exponent`. The half-way points count
where the mantissa is even; below a power of two the numbers lie twice as dense. -/
def readsBack (mantissa : Nat) (exponent : Int) (c : Nat) (k : Int) : Bool :=
  let quarter := power 2 (exponent - 2)
  let grid := power 10 k
  let below := if mantissa = Nat.pow 2 52 ∧ exponent ≠ minExponent then 1 else 2
  let point := c * grid.1 * quarter.2
  let low := (4 * mantissa - below) * quarter.1 * grid.2
  let high := (4 * mantissa + 2) * quarter.1 * grid.2
  if mantissa % 2 = 0 then low ≤ point && point ≤ high else low < point && point < high

/-- The multiple of `10 ^ k` next to the number that reads back, and is nearest; none if neither
neighbour does. -/
def onGrid (mantissa : Nat) (exponent k : Int) : Option Nat :=
  let value := power 2 exponent
  let grid := power 10 k
  let n := mantissa * value.1 * grid.2
  let d := value.2 * grid.1
  let c := n / d
  match readsBack mantissa exponent c k, readsBack mantissa exponent (c + 1) k with
  | true, true => some (roundHalfEven n d)
  | true, false => some c
  | false, true => some (c + 1)
  | false, false => none

/-- Digits and exponent, in `digits * 10 ^ exponent`, of a positive number. Seventeen digits
always read back. -/
def shortest (mantissa : Nat) (exponent : Int) : Nat × Int :=
  let value := power 2 exponent
  let leading := leadingExponent (mantissa * value.1) value.2
  let attempt (digits : Nat) : Option (Nat × Int) :=
    let k := leading - digits
    (onGrid mantissa exponent k).map fun c => (c, k)
  ((List.range 17).findSome? attempt).getD (0, 0)

def dropTrailingZeros (digits : List Char) : List Char :=
  (digits.reverse.dropWhile (· = '0')).reverse

/-- Lays out `0.digits * 10 ^ point`, the leading digit not being zero. -/
def layout (digits : List Char) (point : Int) : List Char :=
  if -4 < point ∧ point ≤ 16 then
    if point ≤ 0 then '0' :: '.' :: (List.replicate (-point).toNat '0' ++ digits)
    else if digits.length ≤ point.toNat then
      digits ++ List.replicate (point.toNat - digits.length) '0' ++ ['.', '0']
    else digits.take point.toNat ++ '.' :: digits.drop point.toNat
  else
    let e := point - 1
    let head := match digits with
      | [] => []
      | [digit] => [digit]
      | digit :: rest => digit :: '.' :: rest
    head ++ 'e' :: (if e < 0 then '-' else '+') :: Decimal.paddedDigits 2 e.natAbs

def text : Binary64 → List Char
  | .nan => "nan".toList
  | .infinite negative => (if negative then "-inf" else "inf").toList
  | .finite negative mantissa exponent =>
    let magnitude :=
      if mantissa = 0 then "0.0".toList
      else
        let (c, k) := shortest mantissa exponent
        let digits := Nat.toDigits 10 c
        layout (dropTrailingZeros digits) (k + digits.length)
    if negative then '-' :: magnitude else magnitude

end WalletKit.Binary64
