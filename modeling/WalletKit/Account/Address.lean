set_option autoImplicit false

namespace WalletKit.Account

/-- The first six and the last five characters; nothing of addresses of up to six characters. -/
def maskAddress (address : String) : String :=
  let cs := address.toList
  if cs.length ≤ 6 then ""
  else String.ofList (cs.take 6 ++ "***".toList ++ cs.drop (cs.length - 5))

end WalletKit.Account
