import StateTransition.Testnet.Report
import StateTransition.Trial.Report

set_option autoImplicit false

/-! Encoded values by the names of their types. -/

namespace StateTransition.Encoded

/-- What is found at the front of some bytes: a value, how many bytes are left, and how the
value is written. -/
structure Finding where
  value : Json
  rest : Nat
  encoded : Bytes

variable {α : Type}

def find [Report α] (codec : Codec α) (bytes : Bytes) : Except CodecError Finding := do
  let (value, rest) ← codec.decode bytes
  return ⟨report value, rest.length, codec.encode value⟩

def plainError (name : String) : Codec String := Codec.unit.via (fun _ => name) fun _ => ()

def trialExtrinsic : Codec Trial.Extrinsic := (Trial.form .plain).codec

def commonTypes : List (String × (Bytes → Except CodecError Finding)) :=
  [("Era", find Era.codec),
   ("Digest", find Digest.codec),
   ("DigestItem", find DigestItem.codec),
   ("DispatchError", find DispatchError.codec),
   ("DispatchResult", find (.result DispatchError.codec .unit)),
   ("ModuleError", find ModuleError.codec),
   ("TokenError", find TokenError.codec),
   ("ArithmeticError", find ArithmeticError.codec),
   ("TransactionalError", find LayerError.codec),
   ("InvalidTransaction", find InvalidTransaction.codec),
   ("UnknownTransaction", find UnknownTransaction.codec),
   ("TransactionValidityError", find Rejection.codec),
   ("ValidTransaction", find ValidTransaction.codec),
   ("TransactionSource", find TransactionSource.codec),
   ("TransactionValidity", find Validity.codec),
   ("DispatchInfo", find DispatchInfo.codec),
   ("PostDispatchInfo", find PostInfo.codec),
   ("DispatchErrorWithPostInfo", find DispatchFailure.codec),
   ("DispatchResultWithPostInfo", find DispatchOutcome.codec),
   ("DispatchClass", find DispatchClass.codec),
   ("Pays", find Pays.codec),
   ("ExistenceRequirement", find (.enumeration [Existence.keepAlive, .allowDeath])),
   ("TimestampError", find TimestampFault.codec),
   ("Weight", find Weight.codec),
   ("RuntimeDbWeight", find StoreWeight.codec),
   ("BadOrigin", find (plainError "BadOrigin")),
   ("LookupError", find (plainError "LookupError")),
   ("WithdrawReasons", find Codec.byte),
   ("RuntimeVersion", find Version.codec),
   ("ApplyExtrinsicResult", find ApplyOutcome.codec),
   ("Phase", find Phase.codec),
   ("LastRuntimeUpgradeInfo", find LastUpgrade.codec),
   ("InherentData", find InherentData.codec),
   ("CheckInherentsResult", find InherentReport.codec),
   ("ConsumedWeight", find ConsumedWeight.codec),
   ("BlockWeights", find BlockWeights.codec),
   ("BlockLength", find BlockLength.codec),
   ("RuntimeDispatchInfo", find FeeQuote.codec),
   ("InclusionFee", find InclusionFee.codec),
   ("FeeDetails", find FeeDetails.codec)]

def testnetTypes : List (String × (Bytes → Except CodecError Finding)) :=
  [("Header", find Testnet.headerCodec),
   ("Block", find Testnet.blockCodec),
   ("AccountId", find (.octets 32)),
   ("Address", find Testnet.placeCodec),
   ("RuntimeCall", find Testnet.Call.codec),
   ("UncheckedExtrinsic", find Testnet.form.codec),
   ("AccountInfo", find (AccountInfo.codec : Codec (AccountInfo Testnet.Number))),
   ("Events", find (.list (EventRecord.codec Testnet.rules.parts (.octets 32))))]

def trialTypes : List (String × (Bytes → Except CodecError Finding)) :=
  [("Header64", find (Header.codec : Codec (Header Trial.Number))),
   ("Address64", find Trial.placeCodec),
   ("RawOrigin", find (Origin.codec (.word : Codec Trial.Account))),
   ("MockCall", find Trial.Call.codec),
   ("MockExtrinsic", find trialExtrinsic)]

/-- What is found in bytes that are taken for a value of a type. -/
def find? (type : String) (bytes : Bytes) : Option (Except CodecError Finding) :=
  ((commonTypes ++ testnetTypes ++ trialTypes).lookup type).map (· bytes)

end StateTransition.Encoded
