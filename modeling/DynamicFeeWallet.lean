import DynamicFeeWallet.Address
import DynamicFeeWallet.Bytes
import DynamicFeeWallet.CommandLine.Arguments
import DynamicFeeWallet.CommandLine.Command
import DynamicFeeWallet.CommandLine.Help
import DynamicFeeWallet.Config.Decoding
import DynamicFeeWallet.Config.Settings
import DynamicFeeWallet.Config.Validation
import DynamicFeeWallet.Curve.Secp256k1
import DynamicFeeWallet.Curve.Signature
import DynamicFeeWallet.Digest.Hmac
import DynamicFeeWallet.Digest.Keccak
import DynamicFeeWallet.Digest.Sha256
import DynamicFeeWallet.Digest.Sha512
import DynamicFeeWallet.Error
import DynamicFeeWallet.FeeLevel
import DynamicFeeWallet.Json.Basic
import DynamicFeeWallet.Json.Number
import DynamicFeeWallet.Json.Parser
import DynamicFeeWallet.Json.Printer
import DynamicFeeWallet.Key.Phrase
import DynamicFeeWallet.Key.Text
import DynamicFeeWallet.Key.WordList
import DynamicFeeWallet.Main
import DynamicFeeWallet.Node.Client
import DynamicFeeWallet.Node.Estimation
import DynamicFeeWallet.Node.Exchange
import DynamicFeeWallet.Node.Failover
import DynamicFeeWallet.Node.Http
import DynamicFeeWallet.Node.Metrics
import DynamicFeeWallet.Proofs.Address
import DynamicFeeWallet.Proofs.BigEndian
import DynamicFeeWallet.Proofs.CommandLine.DryRun
import DynamicFeeWallet.Proofs.CommandLine.Script
import DynamicFeeWallet.Proofs.Config.Validation
import DynamicFeeWallet.Proofs.Curve.Signature
import DynamicFeeWallet.Proofs.Json.Members
import DynamicFeeWallet.Proofs.Node.Accounting
import DynamicFeeWallet.Proofs.Node.Course
import DynamicFeeWallet.Proofs.Node.Estimation
import DynamicFeeWallet.Proofs.Node.Failover
import DynamicFeeWallet.Proofs.Node.Footprint
import DynamicFeeWallet.Proofs.Node.Metrics
import DynamicFeeWallet.Proofs.Node.Reply
import DynamicFeeWallet.Proofs.Quantity
import DynamicFeeWallet.Proofs.Quantity.Canonical
import DynamicFeeWallet.Proofs.Request.Argument
import DynamicFeeWallet.Proofs.Request.CallObject
import DynamicFeeWallet.Proofs.Request.Filter
import DynamicFeeWallet.Proofs.Request.Grammar
import DynamicFeeWallet.Proofs.Rlp.Checked
import DynamicFeeWallet.Proofs.Rlp.Item
import DynamicFeeWallet.Proofs.Rlp.Reader
import DynamicFeeWallet.Proofs.Text.Ascii
import DynamicFeeWallet.Proofs.Text.Hex
import DynamicFeeWallet.Proofs.Transaction.Action
import DynamicFeeWallet.Proofs.Transaction.Encoding
import DynamicFeeWallet.Proofs.Transaction.GasLimit
import DynamicFeeWallet.Proofs.Transaction.Malleability
import DynamicFeeWallet.Proofs.Transaction.Memo
import DynamicFeeWallet.Proofs.Transaction.Pricing
import DynamicFeeWallet.Proofs.Transaction.Skeleton
import DynamicFeeWallet.Proofs.Transaction.Totality
import DynamicFeeWallet.Proofs.Transaction.Verification
import DynamicFeeWallet.Proofs.Wallet.AccountRun
import DynamicFeeWallet.Proofs.Wallet.AddressText
import DynamicFeeWallet.Proofs.Wallet.Building
import DynamicFeeWallet.Proofs.Wallet.ChainId
import DynamicFeeWallet.Proofs.Wallet.Conservation
import DynamicFeeWallet.Proofs.Wallet.KeyText
import DynamicFeeWallet.Proofs.Wallet.LifeCycle
import DynamicFeeWallet.Proofs.Wallet.PersonalMessage
import DynamicFeeWallet.Proofs.Wallet.Polling
import DynamicFeeWallet.Proofs.Wallet.Preimage
import DynamicFeeWallet.Proofs.Wallet.Receipt
import DynamicFeeWallet.Proofs.Wallet.Repricing
import DynamicFeeWallet.Proofs.Wallet.Requests
import DynamicFeeWallet.Proofs.Wallet.Signing
import DynamicFeeWallet.Proofs.Wallet.Steps
import DynamicFeeWallet.Proofs.Wallet.Submission
import DynamicFeeWallet.Proofs.Wallet.Traffic
import DynamicFeeWallet.Quantity
import DynamicFeeWallet.Request.Argument
import DynamicFeeWallet.Request.Call
import DynamicFeeWallet.Request.CallObject
import DynamicFeeWallet.Rlp.Decode
import DynamicFeeWallet.Rlp.Encode
import DynamicFeeWallet.Text.Base64
import DynamicFeeWallet.Text.Blank
import DynamicFeeWallet.Text.Case
import DynamicFeeWallet.Text.Hex
import DynamicFeeWallet.Text.Pieces
import DynamicFeeWallet.Text.Quoted
import DynamicFeeWallet.Text.Unprintable
import DynamicFeeWallet.Toml.Basic
import DynamicFeeWallet.Toml.Literal
import DynamicFeeWallet.Toml.Parser
import DynamicFeeWallet.Transaction.Basic
import DynamicFeeWallet.Transaction.Encoding
import DynamicFeeWallet.Transaction.Payload
import DynamicFeeWallet.Transaction.Skeleton
import DynamicFeeWallet.UInt256
import DynamicFeeWallet.Url.Basic
import DynamicFeeWallet.Url.Domain
import DynamicFeeWallet.Url.Error
import DynamicFeeWallet.Url.Host
import DynamicFeeWallet.Url.IPv4
import DynamicFeeWallet.Url.IPv6
import DynamicFeeWallet.Url.Parser
import DynamicFeeWallet.Url.Percent
import DynamicFeeWallet.Url.Punycode
import DynamicFeeWallet.Wallet.Account
import DynamicFeeWallet.Wallet.Basic
