import ChainActivity.Amount.Basic
import ChainActivity.Amount.Radix
import ChainActivity.Batch.Basic
import ChainActivity.Batch.Chunks
import ChainActivity.Batch.Gather
import ChainActivity.Cache.Backend
import ChainActivity.Cache.Basic
import ChainActivity.Cache.Clock
import ChainActivity.Cache.Codec
import ChainActivity.Cache.Connection
import ChainActivity.Cache.Machine
import ChainActivity.Cache.Policy
import ChainActivity.Cache.Program
import ChainActivity.Cache.Timeline
import ChainActivity.Call.Address
import ChainActivity.Call.Basic
import ChainActivity.Call.Function
import ChainActivity.Call.Parser
import ChainActivity.Call.Term
import ChainActivity.Call.Writer
import ChainActivity.Classification.Basic
import ChainActivity.Classification.Transfers
import ChainActivity.CommandLine.Arguments
import ChainActivity.CommandLine.Basic
import ChainActivity.Decimal.Binary64
import ChainActivity.Decimal.Layout
import ChainActivity.Decimal.Point
import ChainActivity.Decimal.Shortest
import ChainActivity.Json.Basic
import ChainActivity.Json.Number
import ChainActivity.Json.Reader
import ChainActivity.Json.Record
import ChainActivity.Json.Token
import ChainActivity.Json.Writer
import ChainActivity.Keyed
import ChainActivity.Ledger.Activity
import ChainActivity.Ledger.Document
import ChainActivity.Ledger.Transaction
import ChainActivity.Main
import ChainActivity.Text.Alphanumeric
import ChainActivity.Text.Base64
import ChainActivity.Text.Bech32
import ChainActivity.Text.Blank
import ChainActivity.Text.Hex
import ChainActivity.Text.Numeral
import ChainActivity.Text.Utf8
import ChainActivity.Token.Amount
import ChainActivity.Token.Decimals
import ChainActivity.Token.Directory
import ChainActivity.Token.Document
import ChainActivity.Token.Identifier
import ChainActivity.Proofs.Call.RoundTrip
import ChainActivity.Proofs.Call.Rereading
import ChainActivity.Proofs.Cache.Key
import ChainActivity.Proofs.Cache.PlainMap
import ChainActivity.Proofs.Cache.Operations
import ChainActivity.Proofs.Classification.Decimals
import ChainActivity.Proofs.Json.Words
import ChainActivity.Proofs.Token.Directory
import ChainActivity.Proofs.Batch.Resolving
import ChainActivity.Proofs.Cache.Moves
import ChainActivity.Proofs.Cache.Threads
import ChainActivity.Proofs.Cache.Workload
import ChainActivity.Proofs.Cache.SingleFlight
import ChainActivity.Proofs.Call.Layout
import ChainActivity.Proofs.Call.Names
import ChainActivity.Proofs.Classification.Unreadable
import ChainActivity.Proofs.Classification.DecisionTable
import ChainActivity.Proofs.Cache.Shared
import ChainActivity.Proofs.Cache.Overwriting
import ChainActivity.Proofs.Classification.Receiver
import ChainActivity.Proofs.Classification.TwoLookups
import ChainActivity.Proofs.Batch.Gathering
import ChainActivity.Proofs.Batch.Fetching
import ChainActivity.Proofs.Json.OneLine
import ChainActivity.Proofs.CommandLine.Records
import ChainActivity.Proofs.Cache.Isolation
import ChainActivity.Proofs.CommandLine.PlainTransfers
import ChainActivity.Proofs.Json.Numerals
import ChainActivity.Proofs.Decimal.Shortest
import ChainActivity.Proofs.Decimal.Rounding
import ChainActivity.Proofs.Json.Doubles
import ChainActivity.Proofs.Json.RoundTrip
import ChainActivity.Proofs.Json.Records
import ChainActivity.Proofs.Ledger.RoundTrip
import ChainActivity.Proofs.Classification.ReadBack
import ChainActivity.Proofs.Token.Arithmetic
import ChainActivity.Proofs.Classification.Swaps
import ChainActivity.Proofs.Classification.Sources
import ChainActivity.Proofs.Classification.OwnResults
import ChainActivity.Proofs.Classification.Notes
import ChainActivity.Proofs.Classification.Functions
import ChainActivity.Proofs.Token.Collection
import ChainActivity.Proofs.Classification.ClaimedItems
import ChainActivity.Proofs.Classification.StakingPayouts
import ChainActivity.Proofs.Classification.Presence
import ChainActivity.Proofs.Token.SharedTier
import ChainActivity.Proofs.Token.Snapshot
import ChainActivity.Proofs.Token.Tally
import ChainActivity.Proofs.Token.Quantity
import ChainActivity.Proofs.Cache.Turns
import ChainActivity.Proofs.Cache.Populating
import ChainActivity.Proofs.Cache.FailedProduction
import ChainActivity.Proofs.Amount.Grammar
import ChainActivity.Proofs.Decimal.Point
import ChainActivity.Proofs.Token.Hexadecimal
import ChainActivity.Proofs.Token.Scaled
import ChainActivity.Proofs.Token.Given
import ChainActivity.Proofs.Token.Nonces
import ChainActivity.Proofs.Cache.Pauses
import ChainActivity.Proofs.Cache.Timeline
import ChainActivity.Proofs.Call.Numbers
import ChainActivity.Proofs.Batch.FanOut
import ChainActivity.Proofs.Cache.Expiry
import ChainActivity.Proofs.Call.Arguments
