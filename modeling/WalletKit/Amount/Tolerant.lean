import WalletKit.Amount.Strict
import WalletKit.Log

set_option autoImplicit false

namespace WalletKit.Amount

inductive ResultKind where
  | value
  | zeroDefault
  deriving DecidableEq, Repr

def ResultKind.all : List ResultKind := [.value, .zeroDefault]

/-- A text fit to be shown, and whether it was read or stands in for an unreadable one. -/
structure Conversion where
  text : String
  kind : ResultKind
  deriving DecidableEq, Repr

def Conversion.isDefault (c : Conversion) : Bool := c.kind = .zeroDefault

/-- The stand-in for an unreadable text, and the record that reports it. -/
def standIn (what unreadable zero : String) : Logged Conversion :=
  { value := ⟨zero, .zeroDefault⟩
    records := [⟨.debug, .amounts,
      "Unreadable " ++ what ++ " amount " ++ Text.quoted unreadable ++ ", using " ++
        Text.quoted zero⟩] }

/-- A base-sixteen price in base ten, as it is: nothing is divided. A missing number is zero. -/
def gweiOfHex (hexPrice : String) : Logged Conversion :=
  if hexPrice = zeroHex then { value := ⟨zeroDecimal, .value⟩ }
  else
    let digits := Numeral.dropHexMark hexPrice
    if digits = "" then { value := ⟨zeroDecimal, .value⟩ }
    else
      match Numeral.tryRead .sixteen digits with
      | none => standIn "hex" hexPrice zeroDecimal
      | some n => { value := ⟨Numeral.decimal n, .value⟩ }

/-- A decimal price in base sixteen. Whatever follows the first point is cut off unread. -/
def hexOfGwei (price : String) : Logged Conversion :=
  if price = "" then { value := ⟨zeroHex, .value⟩ }
  else
    match Numeral.tryRead .ten (String.ofList (price.toList.takeWhile (· ≠ '.'))) with
    | none => standIn "gwei" price zeroHex
    | some n => { value := ⟨Numeral.hex n, .value⟩ }

def gweiTextOfHex (hexPrice : String) : Logged String := (gweiOfHex hexPrice).map Conversion.text

def hexTextOfGwei (price : String) : Logged String := (hexOfGwei price).map Conversion.text

end WalletKit.Amount
