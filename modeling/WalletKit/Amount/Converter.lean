import WalletKit.Decimal.Quotient
import WalletKit.Numeral.Writing

set_option autoImplicit false

namespace WalletKit.Amount

/-- Smallest units of the reference token are its 18th decimals. -/
def weiDecimals : Nat := 18

def displayPrecision : Nat := 7

structure Converter where
  decimals : Nat := weiDecimals
  precision : Nat := displayPrecision
  precision_pos : 0 < precision := by decide
  deriving DecidableEq, Repr

inductive SettingError where
  | negativeDecimals (decimals : Int)
  | precisionTooSmall (precision : Int)
  | fixed (field : String)
  deriving DecidableEq, Repr

namespace SettingError

def message : SettingError → String
  | .negativeDecimals decimals => s!"decimals cannot be negative, got {decimals}"
  | .precisionTooSmall precision => s!"precision must be at least 1, got {precision}"
  | .fixed field => "cannot assign to field " ++ Text.quoted field

end SettingError

namespace Converter

/-- The decimals are checked before the precision. -/
def make (decimals precision : Int) : Except SettingError Converter :=
  if decimals < 0 then .error (.negativeDecimals decimals)
  else if positive : 1 ≤ precision then
    .ok ⟨decimals.toNat, precision.toNat, by omega⟩
  else .error (.precisionTooSmall precision)

/-- The settings of a converter never change: every assignment is refused. -/
def assign (_ : Converter) (field : String) : Except SettingError Converter :=
  .error (.fixed field)

def multiplier (c : Converter) : String :=
  String.ofList ('1' :: List.replicate c.decimals '0')

end Converter

end WalletKit.Amount
