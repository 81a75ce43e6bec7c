import StateTransition.Account.Info
import StateTransition.Action
import StateTransition.Event.Basic
import StateTransition.Fee.Rule
import StateTransition.Limits.Basic
import StateTransition.Version

set_option autoImplicit false

/-! What a chain lays down for accounts, blocks and fees. `Account` is the type of account
identifiers; `Number` counts blocks and the transactions of an account. -/

namespace StateTransition

structure Rules (Account Number : Type) where
  account : Codec Account
  /-- An account in texts for readers. -/
  describeAccount : Account → String
  parts : PartNumbers
  version : Version
  /-- How many blocks a chain remembers the hashes of. -/
  hashCount : Number
  weights : BlockWeights
  lengths : BlockLength
  storeWeight : StoreWeight
  /-- The least balance with which an account exists. -/
  existentialDeposit : Balance
  weightFee : FeeRule Balance
  lengthFee : FeeRule Balance
  /-- How much of its fee an operational transaction has as a virtual tip. -/
  operationalMultiplier : UInt8
  multiplierRule : MultiplierRule
  /-- What else happens when an account comes into being. -/
  accountCreated : Account → Action Unit
  /-- What else happens when an account dies. -/
  accountKilled : Account → Action Unit
  /-- What happens to paid fees, which are out of circulation by then. -/
  feesTaken : Balance → Action Unit

end StateTransition
