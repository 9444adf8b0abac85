import WalletKit.Record.Frozen

set_option autoImplicit false

namespace WalletKit.Transaction

open Record

structure TxData where
  nonce : String
  gasPrice : String
  gasLimit : String
  recipient : String
  value : String
  data : List UInt8
  deriving DecidableEq, Repr

namespace TxData

/-- The data that fields give, or all their faults in the order of the fields. The recipient is the
field `to`. -/
def build (fields : Fields) : Except (List Fault) TxData :=
  let nonce := quantity "" (fields.get? "nonce")
  let gasPrice := quantity "" (fields.get? "gas_price")
  let gasLimit := quantity "" (fields.get? "gas_limit")
  let recipient := requiredText (fields.get? "to")
  let value := quantity "0x0" (fields.get? "value")
  let data := optionalBytes (fields.get? "data")
  match nonce, gasPrice, gasLimit, recipient, value, data with
  | .ok nonce, .ok gasPrice, .ok gasLimit, .ok recipient, .ok value, .ok data =>
    .ok ⟨nonce, gasPrice, gasLimit, recipient, value, data⟩
  | _, _, _, _, _, _ =>
    .error (faultOf "nonce" nonce ++ faultOf "gas_price" gasPrice ++
      faultOf "gas_limit" gasLimit ++ faultOf "to" recipient ++ faultOf "value" value ++
      faultOf "data" data)

def model : Model TxData := { build, frozen := true }

def ofArguments (nonce gasPrice gasLimit recipient value data : Input) :
    Except (List Fault) TxData :=
  build [("nonce", nonce), ("gas_price", gasPrice), ("gas_limit", gasLimit), ("to", recipient),
    ("value", value), ("data", data)]

end TxData

end WalletKit.Transaction
