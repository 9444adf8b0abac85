import WalletKit.Numeral.Base
import WalletKit.Text.CodePoint

set_option autoImplicit false

namespace WalletKit.Json

/-- One character or escape between quotes. -/
inductive Piece where
  | plain (p : CodePoint)
  | unit (n : Fin 0x10000)
  deriving DecidableEq, Repr

namespace Piece

def shortEscape? : Char → Option Char
  | '"' => some '"'
  | '\\' => some '\\'
  | '/' => some '/'
  | 'b' => some '\x08'
  | 'f' => some '\x0c'
  | 'n' => some '\n'
  | 'r' => some '\r'
  | 't' => some '\t'
  | _ => none

/-- Quotes, backslashes and the control characters below the blank are written as escapes only. -/
def isPlain (c : Char) : Bool := c ≠ '"' && c ≠ '\\' && ' ' ≤ c

/-- The unit that four hexadecimal digits of either case name. -/
def unit? (digits : List Char) : Option Piece :=
  (Numeral.read? .sixteen digits).map fun n => .unit (Fin.ofNat 0x10000 n)

/-- The pieces of what stands between two quotes, those already found being `done`, last first. -/
def split? (done : List Piece) : List Char → Option (List Piece)
  | [] => some done.reverse
  | c :: cs =>
    if c = '\\' then
      match cs with
      | [] => none
      | e :: rest =>
        if e = 'u' then
          match rest with
          | h₁ :: h₂ :: h₃ :: h₄ :: rest =>
            match unit? [h₁, h₂, h₃, h₄] with
            | some piece => split? (piece :: done) rest
            | none => none
          | _ => none
        else
          match shortEscape? e with
          | some meant => split? (.plain (.ofChar meant) :: done) rest
          | none => none
    else if isPlain c then split? (.plain (.ofChar c) :: done) cs
    else none

/-- The code points of pieces, those already found being `done`, last first. The halves of a
surrogate pair next to each other give one code point, a surrogate alone stays one. -/
def join (done : Text) : List Piece → Text
  | [] => done.reverse
  | .plain p :: rest => join (p :: done) rest
  | .unit high :: .unit low :: rest =>
    if CodePoint.isHighSurrogate high && CodePoint.isLowSurrogate low then
      join (CodePoint.ofPair high low :: done) rest
    else join (high.castLE (by decide) :: done) (.unit low :: rest)
  | .unit n :: rest => join (n.castLE (by decide) :: done) rest

end Piece

def unescape? (cs : List Char) : Option Text := (Piece.split? [] cs).map (Piece.join [])

end WalletKit.Json
