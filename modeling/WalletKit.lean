import WalletKit.Account.Address
import WalletKit.Account.Password
import WalletKit.Account.Phrase
import WalletKit.Amount.Tolerant
import WalletKit.Clipboard
import WalletKit.Network
import WalletKit.Swap.Error
import WalletKit.Swap.Slippage
import WalletKit.Timeframe
import WalletKit.Transaction.Calldata
import WalletKit.Transaction.Data
import WalletKit.Proofs.Decimal.PlainNotation
import WalletKit.Proofs.Decimal.Significance
import WalletKit.Proofs.Decimal.Rounding
import WalletKit.Proofs.Decimal.Quotient
import WalletKit.Proofs.Amount.Scaling
import WalletKit.Proofs.Decimal.Division
import WalletKit.Proofs.Amount.Routes
import WalletKit.Proofs.Decimal.Trimming
import WalletKit.Proofs.Amount.Display
import WalletKit.Proofs.Amount.RoundTrip
import WalletKit.Proofs.Numeral.Hexadecimal
import WalletKit.Proofs.Amount.Tolerance
import WalletKit.Proofs.Json.Grammar
import WalletKit.Proofs.Json.Quotes
import WalletKit.Proofs.Json.Words
import WalletKit.Proofs.Json.Nesting
import WalletKit.Proofs.Json.Steps
import WalletKit.Proofs.Json.Parsing
import WalletKit.Proofs.Json.Documents
import WalletKit.Proofs.Schema.Acceptance
import WalletKit.Proofs.Swap.Liquidity
import WalletKit.Proofs.Amount.Prices
import WalletKit.Proofs.Amount.Settings
import WalletKit.Proofs.Amount.Products
import WalletKit.Proofs.Transaction.Quantities
import WalletKit.Proofs.Json.Beginnings
import WalletKit.Proofs.Swap.Answers
import WalletKit.Proofs.Clipboard
import WalletKit.Proofs.Json.Unread
import WalletKit.Proofs.Json.Endings
import WalletKit.Proofs.Schema.Loading
import WalletKit.Proofs.Schema.Faults
import WalletKit.Proofs.Swap.Validation
import WalletKit.Proofs.Record.Forms
import WalletKit.Proofs.Record.Models
import WalletKit.Proofs.Decimal.Ordering
import WalletKit.Proofs.Decimal.Rescaling
import WalletKit.Proofs.Amount.Comparison
import WalletKit.Proofs.Numeral.Canonical
import WalletKit.Proofs.Transaction.Calldata
import WalletKit.Proofs.Account.Password
import WalletKit.Proofs.Account.Phrase
import WalletKit.Proofs.Numeral.Agreement
import WalletKit.Proofs.Text.Quoted
import WalletKit.Proofs.Amount.Messages
