import WalletKit.Numeral.Writing
import WalletKit.Text.Blank

set_option autoImplicit false

namespace WalletKit

inductive Timeframe where
  | live
  | oneDay
  | oneWeek
  | oneMonth
  | threeMonths
  | oneYear
  | all
  deriving DecidableEq, Repr

namespace Timeframe

def every : List Timeframe := [live, oneDay, oneWeek, oneMonth, threeMonths, oneYear, all]

def initial : Timeframe := live

def code : Timeframe → Nat
  | live => 0
  | oneDay => 1
  | oneWeek => 2
  | oneMonth => 3
  | threeMonths => 4
  | oneYear => 5
  | all => 6

def label : Timeframe → String
  | live => "live"
  | oneDay => "1d"
  | oneWeek => "1w"
  | oneMonth => "1m"
  | threeMonths => "3m"
  | oneYear => "1y"
  | all => "all"

inductive Error where
  | unknownLabel (label : String)
  | unknownCode (code : Int)
  deriving DecidableEq, Repr

namespace Error

def message : Error → String
  | .unknownLabel label => "Unknown timeframe label: " ++ Text.quoted label
  | .unknownCode code => Numeral.signedDecimal code ++ " is not a valid AssetPriceTimeframe"

end Error

/-- The interval of a label in any case of its letters, with any white space around it. Labels are
ASCII, and no other character has an ASCII letter of theirs for its lowercase form. -/
def ofLabel (label : String) : Except Error Timeframe :=
  let wanted := (Blank.trim label.toList).map Char.toLower
  match every.find? fun timeframe => timeframe.label.toList = wanted with
  | some timeframe => .ok timeframe
  | none => .error (.unknownLabel label)

def ofCode (code : Int) : Except Error Timeframe :=
  match every.find? fun timeframe => timeframe.code = code with
  | some timeframe => .ok timeframe
  | none => .error (.unknownCode code)

end Timeframe

end WalletKit
