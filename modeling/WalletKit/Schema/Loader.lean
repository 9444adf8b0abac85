import WalletKit.Json.Reader
import WalletKit.Process
import WalletKit.Schema.Directory
import WalletKit.Schema.Document

set_option autoImplicit false

namespace WalletKit.Schema

open Json

inductive LoadError where
  | notFound (name : String)
  | notRead (failure : Failure)
  | notSchema (name : String)
  deriving DecidableEq, Repr

namespace LoadError

def message : LoadError → String
  | .notFound name => "Schema not found: " ++ name
  | .notRead failure => failure.message
  | .notSchema name => "Invalid JSON Schema in " ++ name ++ ".json"

end LoadError

/-- How deep files may be nested, and which values are documents. -/
structure Rules where
  maxNesting : Nat
  isSchema : Value → Bool := Document.isSchema

def Directory.document (d : Directory) (rules : Rules) (name : String) :
    Except LoadError Value :=
  match d.get? name with
  | none => .error (.notFound name)
  | some text =>
    match read rules.maxNesting text with
    | .error failure => .error (.notRead failure)
    | .ok v => if rules.isSchema v then .ok v else .error (.notSchema name)

structure Loader where
  loaded : List (String × Value) := []
  rules : Rules

namespace Loader

def get? (loader : Loader) (name : String) : Option Value :=
  (loader.loaded.find? fun entry => entry.1 = name).map Prod.snd

/-- A document that was loaded once is given out ever after, whatever becomes of its file; a load
that fails leaves no trace. -/
def load (loader : Loader) (d : Directory) (name : String) :
    Except LoadError Value × Loader :=
  match loader.get? name with
  | some v => (.ok v, loader)
  | none =>
    match d.document loader.rules name with
    | .ok v => (.ok v, { loader with loaded := (name, v) :: loader.loaded })
    | .error e => (.error e, loader)

end Loader

/-- What can happen to a directory and a loader that reads from it. -/
inductive Event where
  | write (name text : String)
  | delete (name : String)
  | load (name : String)
  deriving DecidableEq, Repr

structure Shelf where
  directory : Directory := {}
  loader : Loader

namespace Shelf

def handle (shelf : Shelf) : Event → Option (Except LoadError Value) × Shelf
  | .write name text => (none, { shelf with directory := shelf.directory.write name text })
  | .delete name => (none, { shelf with directory := shelf.directory.delete name })
  | .load name =>
    let (answer, loader) := shelf.loader.load shelf.directory name
    (some answer, { shelf with loader })

def run (shelf : Shelf) (events : List Event) : List (Option (Except LoadError Value)) :=
  Process.answers handle shelf events

def after (shelf : Shelf) (events : List Event) : Shelf := Process.after handle shelf events

end Shelf

end WalletKit.Schema
