set_option autoImplicit false

namespace WalletKit.Account

inductive Pattern where
  | char (holds : Char → Bool)
  | atLeast (count : Nat) (holds : Char → Bool)
  | ahead (p : Pattern)
  | textEnd
  | seq (p q : Pattern)

namespace Pattern

/-- The rests of a text after each run of characters of a class. -/
def rests (holds : Char → Bool) : List Char → List (List Char)
  | [] => [[]]
  | c :: cs => (c :: cs) :: (if holds c then rests holds cs else [])

/-- The rests that a pattern can leave of a text. What lies ahead is not consumed; the end of the
text is also before a line end that closes it. -/
def leaves : Pattern → List Char → List (List Char)
  | .char _, [] => []
  | .char holds, c :: cs => if holds c then [cs] else []
  | .atLeast count holds, cs => (rests holds cs).drop count
  | .ahead p, cs => if (p.leaves cs).isEmpty then [] else [cs]
  | .textEnd, cs => if cs = [] ∨ cs = ['\n'] then [cs] else []
  | .seq p q, cs => (p.leaves cs).flatMap q.leaves

def matchesAll (p : Pattern) (s : String) : Bool := [] ∈ p.leaves s.toList

end Pattern

end WalletKit.Account
