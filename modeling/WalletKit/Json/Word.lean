import WalletKit.Json.Value
import WalletKit.Numeral.Reading

set_option autoImplicit false

namespace WalletKit.Json

/-- The parts of a number's text; the integer part and the digits of the other parts are not
empty. -/
structure NumberText where
  negative : Bool
  whole : List Char
  fraction : List Char
  exponent : Option (Bool × List Char)
  deriving DecidableEq, Repr

namespace NumberText

def isDigit (c : Char) : Bool := Base.ten.isDigit c

def splitSign : List Char → Bool × List Char
  | '-' :: rest => (true, rest)
  | cs => (false, cs)

def splitDigits? (cs : List Char) : Option (List Char × List Char) :=
  let digits := cs.takeWhile isDigit
  if digits = [] then none else some (digits, cs.dropWhile isDigit)

/-- The digits behind a point, none if there is no point. -/
def splitFraction? : List Char → Option (List Char × List Char)
  | '.' :: rest => splitDigits? rest
  | cs => some ([], cs)

def splitExponent? : List Char → Option (Bool × List Char)
  | '+' :: rest => digitsOnly? false rest
  | '-' :: rest => digitsOnly? true rest
  | cs => digitsOnly? false cs
where
  digitsOnly? (negative : Bool) (cs : List Char) : Option (Bool × List Char) :=
    if cs ≠ [] ∧ cs.all isDigit then some (negative, cs) else none

/-- Splits the text of a number; the whole text must be one. -/
def split? (cs : List Char) : Option NumberText := do
  let (negative, cs) := splitSign cs
  let (whole, cs) ← splitDigits? cs
  if whole.head? = some '0' ∧ whole ≠ ['0'] then none
  else
    let (fraction, cs) ← splitFraction? cs
    match cs with
    | [] => some ⟨negative, whole, fraction, none⟩
    | 'e' :: rest => (splitExponent? rest).map fun e => ⟨negative, whole, fraction, some e⟩
    | 'E' :: rest => (splitExponent? rest).map fun e => ⟨negative, whole, fraction, some e⟩
    | _ => none

/-- The number that digits spell, zero if there are none. -/
def natural (digits : List Char) : Nat := (Numeral.read? .ten digits).getD 0

def signed (negative : Bool) (n : Nat) : Int := if negative then -n else n

/-- A number without fraction and exponent is whole, and may have no more digits than any other
whole number that is read. -/
def scalar? (x : NumberText) : Option Scalar :=
  match x.fraction, x.exponent with
  | [], none =>
    if x.whole.length ≤ Numeral.maxDecimalDigits then
      some (.int (signed x.negative (natural x.whole)))
    else none
  | fraction, exponent =>
    let scale : Int := match exponent with
      | none => 0
      | some (negative, digits) => signed negative (natural digits)
    some (.double
      (Binary64.ofDecimal x.negative (natural (x.whole ++ fraction)) (scale - fraction.length)))

def goesOn : List Char → Bool
  | '.' :: c :: _ => isDigit c
  | 'e' :: rest => exponentBegins rest
  | 'E' :: rest => exponentBegins rest
  | _ => false
where
  exponentBegins : List Char → Bool
    | '+' :: c :: _ => isDigit c
    | '-' :: c :: _ => isDigit c
    | c :: _ => isDigit c
    | [] => false

/-- How many digits the whole number has that a word begins with, if they are too many. -/
def excess? (word : List Char) : Option Nat :=
  let (_, cs) := splitSign word
  let whole := cs.takeWhile isDigit
  if whole.length ≤ Numeral.maxDecimalDigits ∨ whole.head? = some '0' then none
  else if goesOn (cs.dropWhile isDigit) then none
  else some whole.length

end NumberText

def constants : List (String × Scalar) :=
  [("null", .null), ("true", .bool true), ("false", .bool false), ("NaN", .double .nan),
    ("Infinity", .double (.infinite false)), ("-Infinity", .double (.infinite true))]

def Scalar.ofWord? (word : List Char) : Option Scalar :=
  match constants.find? fun entry => entry.1.toList = word with
  | some entry => some entry.2
  | none => (NumberText.split? word).bind NumberText.scalar?

end WalletKit.Json
