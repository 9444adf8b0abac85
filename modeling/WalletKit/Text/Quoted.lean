import WalletKit.Text.CodePoint
import WalletKit.Text.Printable

set_option autoImplicit false

namespace WalletKit.Text

/-- The lowercase hexadecimal numeral of `n`, filled with zeros up to `width` digits. -/
def paddedHex (width n : Nat) : List Char :=
  let digits := Nat.toDigits 16 n
  List.replicate (width - digits.length) '0' ++ digits

/-- An unprintable code point: the shortest of the three widths that holds it. -/
def escapeNumber (n : Nat) : List Char :=
  if n < 0x100 then '\\' :: 'x' :: paddedHex 2 n
  else if n < 0x10000 then '\\' :: 'u' :: paddedHex 4 n
  else '\\' :: 'U' :: paddedHex 8 n

def escape (q : Char) (p : CodePoint) : List Char :=
  if p.val = '\\'.toNat then ['\\', '\\']
  else if p.val = q.toNat then ['\\', q]
  else if p.val = '\n'.toNat then ['\\', 'n']
  else if p.val = '\r'.toNat then ['\\', 'r']
  else if p.val = '\t'.toNat then ['\\', 't']
  else if CodePoint.isPrintable p.val then [Char.ofNat p.val]
  else escapeNumber p.val

/-- Apostrophes, unless the text holds one and no double quote. -/
def quoteMark (t : Text) : Char :=
  if CodePoint.ofChar '\'' ∈ t ∧ CodePoint.ofChar '"' ∉ t then '"' else '\''

def quote (t : Text) : List Char :=
  let q := quoteMark t
  q :: (t.flatMap (escape q) ++ [q])

def quoted (s : String) : String := String.ofList (quote (ofString s))

end WalletKit.Text
