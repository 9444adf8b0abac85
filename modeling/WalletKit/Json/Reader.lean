import WalletKit.Json.Token

set_option autoImplicit false

namespace WalletKit.Json

inductive Container where
  | array
  | object
  deriving DecidableEq, Repr

/-- Why a text is not read: it is no JSON text, a whole number in it has too many digits, or a
container begins too deep in others. -/
inductive Failure where
  | unreadable
  | tooManyDigits (digits : Nat)
  | tooDeep (container : Container)
  deriving DecidableEq, Repr

namespace Failure

def message : Failure → String
  | .unreadable => "not a JSON text"
  | .tooManyDigits digits => Numeral.limitMessage digits
  | .tooDeep .array =>
    "maximum recursion depth exceeded while decoding a JSON array from a unicode string"
  | .tooDeep .object =>
    "maximum recursion depth exceeded while decoding a JSON object from a unicode string"

end Failure

/-- An open container in which a value is due or just read: what it holds so far, last first, and
for an object the key of that value. -/
inductive Frame where
  | array (items : List Value)
  | object (members : List (Text × Value)) (key : Text)
  deriving Repr

/-- What may come next. The container that `firstItem`, `firstKey`, `nextKey` and `colon` speak of
is not on the stack. -/
inductive Stage where
  | value
  | firstItem
  | firstKey
  | nextKey (members : List (Text × Value))
  | colon (members : List (Text × Value)) (key : Text)
  | complete (v : Value)
  deriving Repr

structure State where
  stack : List Frame := []
  stage : Stage := .value
  deriving Repr

namespace State

def beginValue (limit : Nat) (stack : List Frame) : Token → Except Failure State
  | .scalar a => .ok ⟨stack, .complete (.scalar a)⟩
  | .tooLong digits => .error (.tooManyDigits digits)
  | .openArray =>
    if stack.length < limit then .ok ⟨stack, .firstItem⟩ else .error (.tooDeep .array)
  | .openObject =>
    if stack.length < limit then .ok ⟨stack, .firstKey⟩ else .error (.tooDeep .object)
  | _ => .error .unreadable

def endValue (v : Value) : List Frame → Token → Except Failure State
  | .array items :: stack, .comma => .ok ⟨.array (v :: items) :: stack, .value⟩
  | .array items :: stack, .closeArray => .ok ⟨stack, .complete (.array (v :: items).reverse)⟩
  | .object members key :: stack, .comma => .ok ⟨stack, .nextKey ((key, v) :: members)⟩
  | .object members key :: stack, .closeObject =>
    .ok ⟨stack, .complete (.object (Members.ofPairs ((key, v) :: members).reverse))⟩
  | _, _ => .error .unreadable

def step (limit : Nat) : State → Token → Except Failure State
  | ⟨stack, .value⟩, token => beginValue limit stack token
  | ⟨stack, .firstItem⟩, .closeArray => .ok ⟨stack, .complete (.array [])⟩
  | ⟨stack, .firstItem⟩, token => beginValue limit (.array [] :: stack) token
  | ⟨stack, .firstKey⟩, .closeObject => .ok ⟨stack, .complete (.object [])⟩
  | ⟨stack, .firstKey⟩, .scalar (.text key) => .ok ⟨stack, .colon [] key⟩
  | ⟨stack, .nextKey members⟩, .scalar (.text key) => .ok ⟨stack, .colon members key⟩
  | ⟨stack, .colon members key⟩, .colon => .ok ⟨.object members key :: stack, .value⟩
  | ⟨stack, .complete v⟩, token => endValue v stack token
  | _, _ => .error .unreadable

def steps (limit : Nat) (s : State) (tokens : List Token) : Except Failure State :=
  tokens.foldlM (step limit) s

theorem steps_append (limit : Nat) (s : State) (front back : List Token) :
    s.steps limit (front ++ back) = s.steps limit front >>= fun s => s.steps limit back :=
  List.foldlM_append

def result : State → Except Failure Value
  | ⟨[], .complete v⟩ => .ok v
  | _ => .error .unreadable

end State

structure Progress where
  mode : Mode := .between
  state : State := {}
  deriving Repr

namespace Progress

def feed (limit : Nat) (p : Progress) (c : Char) : Except Failure Progress := do
  let (tokens, mode) := p.mode.advance c
  return ⟨mode, ← p.state.steps limit tokens⟩

def run (limit : Nat) (p : Progress) (cs : List Char) : Except Failure Progress :=
  cs.foldlM (feed limit) p

def finish (limit : Nat) (p : Progress) : Except Failure Value := do
  (← p.state.steps limit p.mode.finish).result

end Progress

/-- The value that a whole text spells. How many containers may be open at once is for the host to
say: its reader calls itself for each of them. -/
def read (limit : Nat) (s : String) : Except Failure Value := do
  (← Progress.run limit {} s.toList).finish limit

/-- The value of a text that may be missing, none if there is none to be read. Only a text that is
nested too deep is an error. -/
def readGiven (limit : Nat) : Option String → Except Failure (Option Value)
  | none => .ok none
  | some s =>
    match read limit s with
    | .ok v => .ok (some v)
    | .error (.tooDeep container) => .error (.tooDeep container)
    | .error _ => .ok none

def isDocument (limit : Nat) (given : Option String) : Except Failure Bool :=
  (readGiven limit given).map fun v => v.any Value.isContainer

end WalletKit.Json
