import StateTransition.Account.Balance
import StateTransition.Account.Id
import StateTransition.Account.Info
import StateTransition.Account.References
import StateTransition.Action
import StateTransition.Arithmetic.Fixed
import StateTransition.Arithmetic.Share
import StateTransition.Block.Digest
import StateTransition.Block.Environment
import StateTransition.Block.Header
import StateTransition.Block.Items
import StateTransition.Bytes
import StateTransition.Call.Balances
import StateTransition.Call.Layered
import StateTransition.Call.System
import StateTransition.Chain.Basic
import StateTransition.Chain.Block
import StateTransition.Chain.Genesis
import StateTransition.Chain.Rules
import StateTransition.Codec.Basic
import StateTransition.Codec.Compact
import StateTransition.Dispatch.Class
import StateTransition.Dispatch.Error
import StateTransition.Dispatch.Info
import StateTransition.Dispatch.Validity
import StateTransition.Era
import StateTransition.Event.Basic
import StateTransition.Event.Log
import StateTransition.Fee.Amount
import StateTransition.Fee.Details
import StateTransition.Fee.Multiplier
import StateTransition.Fee.Payment
import StateTransition.Fee.Rule
import StateTransition.Hash.Blake2
import StateTransition.Hash.Sha512
import StateTransition.Hash.Twox
import StateTransition.Inherent.Data
import StateTransition.Inherent.Source
import StateTransition.Json.Document
import StateTransition.Json.Format
import StateTransition.Json.Reader
import StateTransition.Json.Value
import StateTransition.Limits.Basic
import StateTransition.Limits.Consistency
import StateTransition.Limits.Plan
import StateTransition.Limits.Room
import StateTransition.Origin
import StateTransition.Proofs.Account.Books
import StateTransition.Proofs.Account.Events
import StateTransition.Proofs.Account.Frame
import StateTransition.Proofs.Account.Issuance
import StateTransition.Proofs.Account.Ledger
import StateTransition.Proofs.Account.Lives
import StateTransition.Proofs.Account.Nonce
import StateTransition.Proofs.Account.Operation
import StateTransition.Proofs.Account.Record
import StateTransition.Proofs.Account.Reference
import StateTransition.Proofs.Account.Refusal
import StateTransition.Proofs.Account.Replacement
import StateTransition.Proofs.Account.Shape
import StateTransition.Proofs.Account.Total
import StateTransition.Proofs.Account.Transfer
import StateTransition.Proofs.Action
import StateTransition.Proofs.Block
import StateTransition.Proofs.Call
import StateTransition.Proofs.Chain.Beginning
import StateTransition.Proofs.Chain.Block
import StateTransition.Proofs.Chain.Digest
import StateTransition.Proofs.Chain.Extrinsic
import StateTransition.Proofs.Chain.Forms
import StateTransition.Proofs.Chain.Frame
import StateTransition.Proofs.Chain.Idle
import StateTransition.Proofs.Chain.Log
import StateTransition.Proofs.Chain.Multiplier
import StateTransition.Proofs.Chain.Parent
import StateTransition.Proofs.Chain.Pool
import StateTransition.Proofs.Chain.Total
import StateTransition.Proofs.Chain.Trap
import StateTransition.Proofs.Chain.Window
import StateTransition.Proofs.Codec
import StateTransition.Proofs.Codec.Compact
import StateTransition.Proofs.Codec.Sequence
import StateTransition.Proofs.Era
import StateTransition.Proofs.Era.Window
import StateTransition.Proofs.Event.Deposit
import StateTransition.Proofs.Event.Log
import StateTransition.Proofs.Fee.Multiplier
import StateTransition.Proofs.Fee.Priority
import StateTransition.Proofs.Inherent.Order
import StateTransition.Proofs.Inherent.Report
import StateTransition.Proofs.Layer
import StateTransition.Proofs.Limits.Ledger
import StateTransition.Proofs.Limits.Plan
import StateTransition.Proofs.Limits.Room
import StateTransition.Proofs.Privilege
import StateTransition.Proofs.Store.Append
import StateTransition.Proofs.Store.KeyMap
import StateTransition.Proofs.Store.Maps
import StateTransition.Proofs.Store.Name
import StateTransition.Proofs.Store.Nesting
import StateTransition.Proofs.Store.Rows
import StateTransition.Proofs.Store.Scan
import StateTransition.Proofs.Store.Slot
import StateTransition.Proofs.Store.Tables
import StateTransition.Proofs.Store.Under
import StateTransition.Proofs.Store.View
import StateTransition.Proofs.Testnet.Authored
import StateTransition.Proofs.Testnet.Authoring
import StateTransition.Proofs.Testnet.Capacity
import StateTransition.Proofs.Testnet.Failure
import StateTransition.Proofs.Testnet.Format
import StateTransition.Proofs.Testnet.Frame
import StateTransition.Proofs.Testnet.Header
import StateTransition.Proofs.Testnet.Included
import StateTransition.Proofs.Testnet.Inherent
import StateTransition.Proofs.Testnet.Invariant
import StateTransition.Proofs.Testnet.Nonce
import StateTransition.Proofs.Testnet.Parent
import StateTransition.Proofs.Testnet.Pool
import StateTransition.Proofs.Testnet.Privilege
import StateTransition.Proofs.Testnet.Proposal
import StateTransition.Proofs.Testnet.Query
import StateTransition.Proofs.Testnet.Rejection
import StateTransition.Proofs.Testnet.Replay
import StateTransition.Proofs.Testnet.Signing
import StateTransition.Proofs.Testnet.Story
import StateTransition.Proofs.Testnet.Supply
import StateTransition.Proofs.Testnet.Time
import StateTransition.Proofs.Timestamp
import StateTransition.Proofs.Total
import StateTransition.Proofs.Transaction.Admission
import StateTransition.Proofs.Transaction.Charge
import StateTransition.Proofs.Transaction.Events
import StateTransition.Proofs.Transaction.Format
import StateTransition.Proofs.Transaction.Frame
import StateTransition.Proofs.Transaction.Mortality
import StateTransition.Proofs.Transaction.Nonce
import StateTransition.Proofs.Transaction.Pool
import StateTransition.Proofs.Transaction.Refund
import StateTransition.Proofs.Transaction.Signing
import StateTransition.Proofs.Transaction.Supply
import StateTransition.Proofs.Trap
import StateTransition.Proofs.Weight
import StateTransition.Proofs.Word
import StateTransition.Report.Basic
import StateTransition.Report.Call
import StateTransition.Report.Chain
import StateTransition.Report.Constants
import StateTransition.Report.Dispatch
import StateTransition.Report.Encoded
import StateTransition.Report.Limits
import StateTransition.Report.Overview
import StateTransition.Script.Basic
import StateTransition.Script.Store
import StateTransition.Signature.Curve
import StateTransition.Signature.Ed25519
import StateTransition.Store.Basic
import StateTransition.Store.Item
import StateTransition.Store.Key
import StateTransition.Store.KeyMap
import StateTransition.Store.Layer
import StateTransition.Testnet.Call
import StateTransition.Testnet.Entry
import StateTransition.Testnet.Genesis
import StateTransition.Testnet.Keyring
import StateTransition.Testnet.Network
import StateTransition.Testnet.Report
import StateTransition.Timestamp
import StateTransition.Transaction.Check
import StateTransition.Transaction.Extrinsic
import StateTransition.Transaction.Terms
import StateTransition.Trap
import StateTransition.Trial.Call
import StateTransition.Trial.Chain
import StateTransition.Trial.Draft
import StateTransition.Trial.Inherents
import StateTransition.Trial.Report
import StateTransition.Trial.Settings
import StateTransition.Version
import StateTransition.Weight
import StateTransition.Word
