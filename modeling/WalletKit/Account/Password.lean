import WalletKit.Account.Pattern
import WalletKit.Text.Blank

set_option autoImplicit false

namespace WalletKit.Account

def specialCharacters : String := "$&+,:;=?@#|'<>.^*()%!-"

def passwordPatternText : String :=
  "^(?=.*[0-9])(?=.*[a-zA-Z])(?=.*[" ++ specialCharacters ++ "])(?=\\S+$).\x7b7,\x7d$"

/-- A point stands for every character but the line end. -/
def isInLine (c : Char) : Bool := c ≠ '\n'

def isSpecial (c : Char) : Bool := c ∈ specialCharacters.toList

/-- Somewhere ahead in the line a character of a class. -/
def somewhere (holds : Char → Bool) : Pattern :=
  .ahead (.seq (.atLeast 0 isInLine) (.char holds))

def passwordPattern : Pattern :=
  .seq (somewhere Char.isDigit) <|
  .seq (somewhere Char.isAlpha) <|
  .seq (somewhere isSpecial) <|
  .seq (.ahead (.seq (.atLeast 1 (!Blank.isBlank ·)) .textEnd)) <|
  .seq (.atLeast 7 isInLine) .textEnd

def isPasswordValid (password : String) : Bool := passwordPattern.matchesAll password

end WalletKit.Account
