import WalletKit.Record.Frozen

set_option autoImplicit false

namespace WalletKit

open Record

structure Network where
  chainId : String
  name : String
  abbreviation : String
  deriving DecidableEq, Repr

namespace Network

/-- The network that fields give, or all their faults. No field may be missing or empty. -/
def build (fields : Fields) : Except (List Fault) Network :=
  let chainId := nonemptyText (fields.get? "chain_id")
  let name := nonemptyText (fields.get? "name")
  let abbreviation := nonemptyText (fields.get? "abbr")
  match chainId, name, abbreviation with
  | .ok chainId, .ok name, .ok abbreviation => .ok ⟨chainId, name, abbreviation⟩
  | _, _, _ =>
    .error (faultOf "chain_id" chainId ++ faultOf "name" name ++ faultOf "abbr" abbreviation)

def model : Model Network := { build, frozen := true }

def mainnet : Network := ⟨"0x1", "Ethereum Mainnet", "Mainnet"⟩

def rinkeby : Network := ⟨"0x4", "Rinkeby Test Network", "Rinkeby"⟩

def ropsten : Network := ⟨"0x3", "Ropsten Test Network", "Ropsten"⟩

def goerli : Network := ⟨"0x5", "Goerli Test Network", "Goerli"⟩

def kovan : Network := ⟨"0x2a", "Kovan Test Network", "Kovan"⟩

def localhost : Network := ⟨"0x539", "Localhost", "Localhost"⟩

/-- The known networks in the order in which they are offered. -/
def known : List Network := [mainnet, rinkeby, ropsten, goerli, kovan, localhost]

def names : List String := known.map Network.name

def abbreviations : List String := known.map Network.abbreviation

/-- Whatever chain is asked for and not known, the answer is the main network. -/
def ofChainId (chainId : String) : Network :=
  (known.find? fun network => network.chainId = chainId).getD mainnet

def ofName (name : String) : Network :=
  (known.find? fun network => network.name = name).getD mainnet

end Network

end WalletKit
