import Mathlib.Data.List.Basic
import WalletKit.Json.Token
import WalletKit.Proofs.Decimal.PlainNotation
import WalletKit.Proofs.Numeral.Hexadecimal

set_option autoImplicit false

/- The grammar of JSON texts, apart from how they are read: which characters are tokens, and which
sequences of tokens derive a value. A text spells a value in many ways; each way fixes the value, of
repeated keys the last one counting. -/
namespace WalletKit.Json

open Numeral

/-- The characters behind a backslash, and what they stand for. -/
def shortEscapes : List (Char × Char) :=
  [('"', '"'), ('\\', '\\'), ('/', '/'), ('b', '\x08'), ('f', '\x0c'), ('n', '\n'), ('r', '\r'),
    ('t', '\t')]

/-- How one piece is written: a character as it is, an escape by one character, or four hexadecimal
digits of either case for a UTF-16 unit. -/
inductive PieceText : List Char → Piece → Prop where
  | plain {c : Char} (noControl : 0x20 ≤ c.toNat) (noQuote : c ≠ '"') (noBackslash : c ≠ '\\') :
    PieceText [c] (.plain (.ofChar c))
  | short {e c : Char} (known : (e, c) ∈ shortEscapes) :
    PieceText ['\\', e] (.plain (.ofChar c))
  | unit {h₁ h₂ h₃ h₄ : Char} (digits : ∀ h ∈ [h₁, h₂, h₃, h₄], IsHexDigit h) :
    PieceText ['\\', 'u', h₁, h₂, h₃, h₄] (.unit (Fin.ofNat 0x10000 (hexNumber [h₁, h₂, h₃, h₄])))

inductive PiecesText : List Char → List Piece → Prop where
  | nil : PiecesText [] []
  | cons {w cs : List Char} {piece : Piece} {pieces : List Piece} (first : PieceText w piece)
    (rest : PiecesText cs pieces) : PiecesText (w ++ cs) (piece :: pieces)

/-- An exponent: a letter of either case, an optional sign and digits. -/
inductive ExponentText : List Char → ℤ → Prop where
  | unsigned {e : Char} {ds : List Char} (letter : e ∈ ['e', 'E']) (nonempty : ds ≠ [])
    (digits : ∀ c ∈ ds, c.isDigit) : ExponentText (e :: ds) (Nat.ofDigitChars 10 ds 0)
  | plus {e : Char} {ds : List Char} (letter : e ∈ ['e', 'E']) (nonempty : ds ≠ [])
    (digits : ∀ c ∈ ds, c.isDigit) : ExponentText (e :: '+' :: ds) (Nat.ofDigitChars 10 ds 0)
  | minus {e : Char} {ds : List Char} (letter : e ∈ ['e', 'E']) (nonempty : ds ≠ [])
    (digits : ∀ c ∈ ds, c.isDigit) : ExponentText (e :: '-' :: ds) (-Nat.ofDigitChars 10 ds 0)

/-- The double nearest to a plain numeral times a power of ten. -/
def doubleOf (x : PlainNumeral) (scale : ℤ) : Scalar :=
  .double (Binary64.ofDecimal x.negative (Nat.ofDigitChars 10 (x.whole ++ x.fraction) 0)
    (scale - x.fraction.length))

/-- How constants and numbers are written. A number is a plain numeral, and an exponent may stand
behind it; without fraction and exponent it is whole, and has no more digits than any whole number
that is read. -/
inductive WordText : List Char → Scalar → Prop where
  | constant {name : String} {a : Scalar} (known : (name, a) ∈ constants) :
    WordText name.toList a
  | whole {x : PlainNumeral} (noFraction : x.fraction = [])
    (short : x.whole.length ≤ maxDecimalDigits) :
    WordText x.chars (.int (NumberText.signed x.negative (Nat.ofDigitChars 10 x.whole 0)))
  | fraction {x : PlainNumeral} (nonempty : x.fraction ≠ []) : WordText x.chars (doubleOf x 0)
  | exponent {x : PlainNumeral} {e : List Char} {scale : ℤ} (behind : ExponentText e scale) :
    WordText (x.chars ++ e) (doubleOf x scale)

def punctuation : List (Char × Token) :=
  [('[', .openArray), (']', .closeArray), ('\x7b', .openObject), ('\x7d', .closeObject),
    (',', .comma), (':', .colon)]

inductive TokenText : List Char → Token → Prop where
  | punctuation {c : Char} {token : Token} (known : (c, token) ∈ punctuation) :
    TokenText [c] token
  | word {w : List Char} {a : Scalar} (text : WordText w a) : TokenText w (.scalar a)
  | quoted {body : List Char} {pieces : List Piece} (text : PiecesText body pieces) :
    TokenText ('"' :: (body ++ ['"'])) (.scalar (.text (Piece.join [] pieces)))

/-- The characters that may stand between tokens. -/
def blanks : List Char := [' ', '\t', '\n', '\r']

/-- Tokens one behind the other, and blanks anywhere between them. -/
inductive Lexemes : List Char → List Token → Prop where
  | nil : Lexemes [] []
  | blank {c : Char} {cs : List Char} {tokens : List Token} (space : c ∈ blanks)
    (rest : Lexemes cs tokens) : Lexemes (c :: cs) tokens
  | token {w cs : List Char} {t : Token} {tokens : List Token} (first : TokenText w t)
    (rest : Lexemes cs tokens) : Lexemes (w ++ cs) (t :: tokens)

/-- The tokens of a member: its key, a colon and its value. -/
def memberTokens (part : Text × List Token × Value) : List Token :=
  .scalar (.text part.1) :: .colon :: part.2.1

/-- A member with its tokens forgotten. -/
def memberPair (part : Text × List Token × Value) : Text × Value := (part.1, part.2.2)

/-- The tokens of a value: a scalar, values between commas in brackets, or members between commas
in braces. -/
inductive Derives : List Token → Value → Prop where
  | scalar (a : Scalar) : Derives [.scalar a] (.scalar a)
  | array (parts : List (List Token × Value)) (each : ∀ part ∈ parts, Derives part.1 part.2) :
    Derives (.openArray :: ([Token.comma].intercalate (parts.map Prod.fst) ++ [.closeArray]))
      (.array (parts.map Prod.snd))
  | object (parts : List (Text × List Token × Value))
    (each : ∀ part ∈ parts, Derives part.2.1 part.2.2) :
    Derives (.openObject :: ([Token.comma].intercalate (parts.map memberTokens) ++ [.closeObject]))
      (.object (Members.ofPairs (parts.map memberPair)))

/-- The text `s` spells the value `v`. -/
def Spells (s : String) (v : Value) : Prop :=
  ∃ tokens, Lexemes s.toList tokens ∧ Derives tokens v

/-- Whether a character stands between quotes, and there behind a backslash. -/
inductive Quoting where
  | outside
  | inside
  | escaped
  deriving DecidableEq

def Quoting.next : Quoting → Char → Quoting
  | .outside, c => if c = '"' then .inside else .outside
  | .inside, c => if c = '"' then .outside else if c = '\\' then .escaped else .inside
  | .escaped, _ => .inside

/-- How many brackets and braces are open behind a character, `depth` being open before it. -/
def depthBehind (depth : ℕ) (c : Char) : ℕ :=
  if c = '[' ∨ c = '\x7b' then depth + 1
  else if c = ']' ∨ c = '\x7d' then depth - 1 else depth

/-- The most brackets and braces that are open at once; those between quotes do not count. -/
def deepest : Quoting → ℕ → List Char → ℕ
  | _, depth, [] => depth
  | quoting, depth, c :: cs =>
    max depth (deepest (quoting.next c)
      (if quoting = .outside then depthBehind depth c else depth) cs)

/-- How deep the containers of a text are nested, be it a JSON text or not. -/
def nesting (s : String) : ℕ := deepest .outside 0 s.toList

end WalletKit.Json
