import WalletKit.Json.Escaped
import WalletKit.Json.Word

set_option autoImplicit false

namespace WalletKit.Json

/-- A token; `tooLong` begins with a whole number of too many digits, and `junk` is whatever belongs
to no other. -/
inductive Token where
  | openArray
  | closeArray
  | openObject
  | closeObject
  | comma
  | colon
  | scalar (a : Scalar)
  | tooLong (digits : Nat)
  | junk
  deriving DecidableEq, Repr

namespace Token

def punctuation? : Char → Option Token
  | '[' => some .openArray
  | ']' => some .closeArray
  | '\x7b' => some .openObject
  | '\x7d' => some .closeObject
  | ',' => some .comma
  | ':' => some .colon
  | _ => none

def ofWord (word : List Char) : Token :=
  match Scalar.ofWord? word with
  | some a => .scalar a
  | none =>
    match NumberText.excess? word with
    | some digits => .tooLong digits
    | none => .junk

def ofQuoted (cs : List Char) : Token :=
  match unescape? cs with
  | some t => .scalar (.text t)
  | none => .junk

end Token

def isSpace (c : Char) : Bool := c = ' ' || c = '\t' || c = '\n' || c = '\r'

def isWordChar (c : Char) : Bool := c.isAlphanum || c = '+' || c = '-' || c = '.'

/-- Where a scan stands: between tokens, in a word or in a text. The characters of a begun token
are kept, last first. -/
inductive Mode where
  | between
  | word (seen : List Char)
  | text (seen : List Char) (escaped : Bool)
  deriving DecidableEq, Repr

namespace Mode

def start (c : Char) : List Token × Mode :=
  if isSpace c then ([], .between)
  else if c = '"' then ([], .text [] false)
  else
    match Token.punctuation? c with
    | some token => ([token], .between)
    | none => if isWordChar c then ([], .word [c]) else ([.junk], .between)

/-- A word goes on for as long as it can; a text ends with the first quote that is not escaped. -/
def advance : Mode → Char → List Token × Mode
  | .between, c => start c
  | .word seen, c =>
    if isWordChar c then ([], .word (c :: seen))
    else
      let (tokens, mode) := start c
      (Token.ofWord seen.reverse :: tokens, mode)
  | .text seen true, c => ([], .text (c :: seen) false)
  | .text seen false, c =>
    if c = '"' then ([Token.ofQuoted seen.reverse], .between)
    else ([], .text (c :: seen) (c = '\\'))

def finish : Mode → List Token
  | .between => []
  | .word seen => [Token.ofWord seen.reverse]
  | .text _ _ => [.junk]

end Mode

end WalletKit.Json
