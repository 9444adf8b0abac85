set_option autoImplicit false

namespace WalletKit

inductive Base where
  | ten
  | sixteen
  deriving DecidableEq, Repr

namespace Base

def radix : Base → Nat
  | .ten => 10
  | .sixteen => 16

/-- The value of an ASCII digit, in base sixteen of a letter of either case. -/
def digit? : Base → Char → Option Nat
  | .ten, c =>
    if '0' ≤ c ∧ c ≤ '9' then some (c.toNat - '0'.toNat) else none
  | .sixteen, c =>
    if '0' ≤ c ∧ c ≤ '9' then some (c.toNat - '0'.toNat)
    else if 'a' ≤ c ∧ c ≤ 'f' then some (c.toNat - 'a'.toNat + 10)
    else if 'A' ≤ c ∧ c ≤ 'F' then some (c.toNat - 'A'.toNat + 10)
    else none

def isDigit (base : Base) (c : Char) : Bool := (base.digit? c).isSome

end Base

namespace Numeral

/-- Positional value, the leading digit first. -/
def ofDigits (radix : Nat) (digits : List Nat) : Nat :=
  digits.foldl (fun n digit => radix * n + digit) 0

theorem ofDigits_concat (radix : Nat) (digits : List Nat) (last : Nat) :
    ofDigits radix (digits ++ [last]) = radix * ofDigits radix digits + last := by
  simp [ofDigits]

/-- The number that a nonempty run of digits spells. No sign, blank or separator is read. -/
def read? (base : Base) : List Char → Option Nat
  | [] => none
  | c :: cs => ((c :: cs).mapM base.digit?).map (ofDigits base.radix)

end Numeral

end WalletKit
