set_option autoImplicit false

namespace WalletKit

inductive Level where
  | debug
  | info
  | warning
  deriving DecidableEq, Repr

inductive Origin where
  | amounts
  | swapErrors
  | clipboard
  deriving DecidableEq, Repr

structure LogRecord where
  level : Level
  origin : Origin
  text : String
  deriving DecidableEq, Repr

/-- A result and the records written on the way to it, the first one first. -/
structure Logged (α : Type) where
  value : α
  records : List LogRecord := []
  deriving DecidableEq, Repr

def Logged.map {α β : Type} (f : α → β) (r : Logged α) : Logged β := ⟨f r.value, r.records⟩

end WalletKit
