import WalletKit.Log
import WalletKit.Process

set_option autoImplicit false

namespace WalletKit

namespace Clipboard

inductive Content where
  | text (s : String)
  | other
  deriving DecidableEq, Repr

structure Outage where
  message : String
  deriving DecidableEq, Repr

end Clipboard

structure Clipboard where
  content : Clipboard.Content := .text ""
  outage : Option Clipboard.Outage := none
  deriving DecidableEq, Repr

namespace Clipboard

def save (clipboard : Clipboard) (text : String) :
    Logged (Except Outage Unit) × Clipboard :=
  match clipboard.outage with
  | some outage => ({ value := .error outage }, clipboard)
  | none =>
    ({ value := .ok (), records := [⟨.info, .clipboard, "Text has been copied"⟩] },
      { clipboard with content := .text text })

/-- The text in the cell; it is empty if the cell holds something else or is out of reach. -/
def get (clipboard : Clipboard) : Logged String :=
  match clipboard.outage with
  | some outage =>
    { value := ""
      records := [⟨.warning, .clipboard, "Clipboard is not available: " ++ outage.message⟩] }
  | none =>
    match clipboard.content with
    | .text s => { value := s }
    | .other => { value := "" }

/-- What can happen to a clipboard: uses of it, and changes from outside. -/
inductive Event where
  | save (text : String)
  | get
  | fill (content : Content)
  | reach (outage : Option Outage)
  deriving DecidableEq, Repr

inductive Reply where
  | done
  | text (s : String)
  | failed (outage : Outage)
  deriving DecidableEq, Repr

def handle (clipboard : Clipboard) : Event → Logged Reply × Clipboard
  | .save text =>
    let (saved, clipboard) := clipboard.save text
    match saved.value with
    | .ok () => ({ value := .done, records := saved.records }, clipboard)
    | .error outage => ({ value := .failed outage, records := saved.records }, clipboard)
  | .get =>
    let found := clipboard.get
    ({ value := .text found.value, records := found.records }, clipboard)
  | .fill content => ({ value := .done }, { clipboard with content })
  | .reach outage => ({ value := .done }, { clipboard with outage })

def run (clipboard : Clipboard) (events : List Event) : List (Logged Reply) :=
  Process.answers handle clipboard events

def after (clipboard : Clipboard) (events : List Event) : Clipboard :=
  Process.after handle clipboard events

end Clipboard

end WalletKit
