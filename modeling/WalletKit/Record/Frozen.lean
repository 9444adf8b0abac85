import WalletKit.Process
import WalletKit.Record.Field

set_option autoImplicit false

namespace WalletKit.Record

/-- A kind of records: how one is built, and whether its fields are frozen from then on. -/
structure Model (α : Type) where
  build : Fields → Except (List Fault) α
  frozen : Bool

/-- What becomes of a record when an attribute is set or deleted that the record does not protect.
This is for the host to say: the attribute may be kept beside the fields, it may be all of them at
once (`__dict__`), and there are some that cannot be set. -/
structure Attributes (α : Type) where
  set : α → String → Input → Except String α
  delete : α → String → Except String α

def Attributes.beside {α : Type} : Attributes α where
  set record _ _ := .ok record
  delete record _ := .ok record

/-- A name with an underscore in front is no field. It is set without asking the record. -/
def isPrivate (name : String) : Bool := name.toList.head? = some '_'

/-- What may be tried on a built record; a comparison is with the record that fields build. -/
inductive Attempt where
  | set (name : String) (value : Input)
  | delete (name : String)
  | compare (fields : Fields)
  | dump
  deriving DecidableEq, Repr

inductive Reply (α : Type) where
  | done
  | failed (message : String)
  | frozen (name : String)
  | rejected (faults : List Fault)
  | equal (same : Bool)
  | contents (record : α)
  deriving DecidableEq, Repr

def frozenMessage : String := "Instance is frozen"

section
variable {α : Type}

def settle (record : α) : Except String α → Reply α × α
  | .ok next => (.done, next)
  | .error message => (.failed message, record)

variable [DecidableEq α] (model : Model α) (attributes : Attributes α)

-- A private name is looked at before the freeze when it is set, but not when it is deleted.
def handle (record : α) : Attempt → Reply α × α
  | .set name value =>
    if model.frozen && !isPrivate name then (.frozen name, record)
    else settle record (attributes.set record name value)
  | .delete name =>
    if model.frozen then (.frozen name, record)
    else settle record (attributes.delete record name)
  | .compare fields =>
    match model.build fields with
    | .ok other => (.equal (record = other), record)
    | .error faults => (.rejected faults, record)
  | .dump => (.contents record, record)

def run (record : α) (attempts : List Attempt) : List (Reply α) :=
  Process.answers (handle model attributes) record attempts

def after (record : α) (attempts : List Attempt) : α :=
  Process.after (handle model attributes) record attempts

end

end WalletKit.Record
