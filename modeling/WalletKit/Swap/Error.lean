import WalletKit.Json.Access
import WalletKit.Json.Printer
import WalletKit.Log
import WalletKit.Schema.Loader

set_option autoImplicit false

namespace WalletKit.Swap

open Json

def insufficientLiquidity : String := "INSUFFICIENT_ASSET_LIQUIDITY"

def schemaName : String := "swap_error"

def itemSchema : Schema :=
  .kind .object <|
  .required "reason" <|
  .member "field" (.kind .string .anything) <|
  .member "code" (.kind .integer .anything) <|
  .member "reason" (.kind .string .anything) <|
  .anything

def payloadSchema : Schema :=
  .kind .object <|
  .required "validationErrors" <|
  .member "code" (.kind .integer .anything) <|
  .member "reason" (.kind .string .anything) <|
  .member "validationErrors" (.kind .array <| .each itemSchema .anything) <|
  .anything

def kindDocument (kind : Kind) : Value := .record [("type", .text kind.name)]

def payloadDocument : Value :=
  .record [
    ("$schema", .text "https://json-schema.org/draft/2020-12/schema"),
    ("$id", .text "swap_error.json"),
    ("title", .text "SwapError"),
    ("description", .text "Error payload returned by the swap quote API"),
    ("type", .text "object"),
    ("required", .array [.text "validationErrors"]),
    ("properties", .record [
      ("code", kindDocument .integer),
      ("reason", kindDocument .string),
      ("validationErrors", .record [
        ("type", .text "array"),
        ("items", .record [
          ("type", .text "object"),
          ("required", .array [.text "reason"]),
          ("properties", .record [
            ("field", kindDocument .string),
            ("code", kindDocument .integer),
            ("reason", kindDocument .string)])])])])]

/-- The directory of the schemas that come with the library. -/
def schemaDirectory : Schema.Directory :=
  { place := ["schema", "contracts", "core", "src"]
    files := [(schemaName, String.ofList payloadDocument.print)] }

/-- Whether a validation error of the payload tells of missing liquidity, up to the first that does.
The payload is taken to keep its schema. -/
def mentionsLiquidity (payload : Value) : Except AccessError Bool := do
  let errors ← payload.member "validationErrors"
  (← errors.elements).anyM fun item =>
    return (← item.member "reason").isText insufficientLiquidity

/-- The verdict on a payload, or on a text that has none. A payload that breaks the schema anywhere
does not tell of missing liquidity. -/
def verdict : Option Value → Except AccessError (Logged Bool)
  | none => .ok { value := false, records := [⟨.debug, .swapErrors, "Swap error is not JSON"⟩] }
  | some payload =>
    if payloadSchema.accepts payload then (mentionsLiquidity payload).map fun b => { value := b }
    else
      .ok { value := false
            records := [⟨.debug, .swapErrors,
              "Swap error payload rejected by schema " ++ Text.quoted schemaName⟩] }

inductive Interruption where
  | reading (failure : Failure)
  | access (error : AccessError)
  deriving Repr

def isLiquidityError (limit : Nat) (given : Option String) :
    Except Interruption (Logged Bool) := do
  let payload ← (readGiven limit given).mapError .reading
  (verdict payload).mapError .access

end WalletKit.Swap
