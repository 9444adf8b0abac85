set_option autoImplicit false

namespace WalletKit.Swap

def slippageTolerances : List String := ["0.5%", "1%", "1.5%", "3%", "6%"]

end WalletKit.Swap
