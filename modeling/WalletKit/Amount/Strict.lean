import WalletKit.Amount.Converter

set_option autoImplicit false

namespace WalletKit.Amount

def zeroDecimal : String := "0"

def zeroHex : String := "0x0"

inductive Error where
  | unreadable (cause : ParseError)
  | multiplierTooLong (length : Nat)
  | division (cause : DivisionError)
  deriving DecidableEq, Repr

namespace Error

def message : Error → String
  | .unreadable cause => cause.message
  | .multiplierTooLong length => Numeral.limitMessage length
  | .division cause => cause.message

end Error

def readDecimal (s : String) : Except Error Nat :=
  (Numeral.readDecimal s).mapError .unreadable

/-- A whole number read strictly from digits without a mark. -/
def readHex (s : String) : Except Error Nat :=
  (Numeral.readHex s).mapError .unreadable

/-- Base ten to base sixteen; the empty text is zero. -/
def hexOfDecimal (number : String) : Except Error String :=
  if number = "" then .ok zeroHex else (readDecimal number).map Numeral.hex

/-- The product in base sixteen. The left operand is read first. -/
def multiplyHex (a b : String) : Except Error String := do
  let left ← readHex (Numeral.dropHexMark a)
  let right ← readHex (Numeral.dropHexMark b)
  return Numeral.hex (left * right)

namespace Converter

def tokensOfUnits (c : Converter) (units : Nat) : Except Error String :=
  (Decimal.divide units c.decimals c.precision).mapError .division

/-- Smallest units in base sixteen to tokens; a missing number is zero. -/
def tokensOfHexUnits (c : Converter) (hexUnits : String) : Except Error String :=
  if hexUnits = zeroHex then .ok zeroDecimal
  else
    let digits := Numeral.dropHexMark hexUnits
    if digits = "" then .ok zeroDecimal
    else readHex digits >>= c.tokensOfUnits

/-- Smallest units in base ten to tokens; a missing or empty text is zero. -/
def tokensOfDecimalUnits (c : Converter) (decimalUnits : Option String) : Except Error String :=
  match decimalUnits with
  | none => .ok zeroDecimal
  | some text => if text = "" then .ok zeroDecimal else readDecimal text >>= c.tokensOfUnits

/-- How many characters follow the first point; none if there is no point. -/
def fractionDigits (cs : List Char) : Nat :=
  (cs.dropWhile (· ≠ '.')).length - 1

/-- `10 ^ zeros` read from its numeral, which may not be too long to be read. -/
def scale (zeros : Nat) : Except Error Nat :=
  if zeros + 1 ≤ Numeral.maxDecimalDigits then .ok (Nat.pow 10 zeros)
  else .error (.multiplierTooLong (zeros + 1))

/-- Tokens to smallest units, without rounding. The point is removed, and the multiplier loses as
many zeros as digits stood behind the point. -/
def unitsOfTokens (c : Converter) (tokens : String) : Except Error Nat := do
  let cs := tokens.toList
  let fraction := fractionDigits cs
  if 1 < cs.count '.' then
    .error (.unreadable ⟨tokens, .ten, .severalPoints⟩)
  else if c.decimals < fraction then
    .error (.unreadable ⟨tokens, .ten, .fractionTooLong fraction c.decimals⟩)
  else
    let number ← readDecimal (String.ofList (cs.filter (· ≠ '.')))
    let multiplier ← scale (c.decimals - fraction)
    return number * multiplier

/-- Tokens to smallest units in base ten; the empty text is zero. -/
def decimalUnitsOfTokens (c : Converter) (tokens : String) : Except Error String :=
  if tokens = "" then .ok zeroDecimal else (c.unitsOfTokens tokens).map Numeral.decimal

def hexUnitsOfTokens (c : Converter) (tokens : String) : Except Error String :=
  if tokens = "" then .ok zeroHex else (c.unitsOfTokens tokens).map Numeral.hex

end Converter

end WalletKit.Amount
