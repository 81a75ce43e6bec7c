import StateTransition.Testnet.Network

set_option autoImplicit false

/-! How the host calls into the test network: by the name of an entry point, with encoded
arguments and an encoded answer. -/

namespace StateTransition.Testnet

inductive EntryError where
  | unknownMethod (name : String)
  | badInput (cause : CodecError)
deriving DecidableEq

/-- The wording of an error. That of a bad input is only known where its cause has a wording. -/
def EntryError.message? : EntryError → Option String
  | .unknownMethod name => some ("Unknown runtime method: " ++ name)
  | .badInput cause => cause.message?.map ("Could not decode the method input: " ++ ·)

namespace Entry

/-- Applies an extrinsic in a layer of its own, so that nothing is left of one that is
rejected. -/
def applyExtrinsic (extrinsic : Extrinsic) : Action ApplyOutcome := do
  Action.change Store.openLayer
  let outcome ← (chain.applyExtrinsic form extrinsic).run
  let close := if outcome.isOk then Store.keepLayer? else Store.discardLayer?
  match ← Action.look close with
  | some closed => Action.change fun _ => closed
  | none => Action.trap .layerClosed
  return outcome

def ignoring {α : Type} (answer : Codec α) (run : Action α) (_ : Bytes) :
    Action (Except CodecError Bytes) := do
  return .ok (answer.encode (← run))

/-- An entry point that takes all of its input as arguments. -/
def taking {α β : Type} (arguments : Codec α) (answer : Codec β) (run : α → Action β)
    (input : Bytes) : Action (Except CodecError Bytes) := do
  match arguments.decodeAll input with
  | .error cause => return .error cause
  | .ok arguments => return .ok (answer.encode (← run arguments))

def extrinsicAndLength : Codec (Extrinsic × UInt32) := form.codec.pair .word

def callAndLength : Codec (Call × UInt32) := Call.codec.pair .word

def methods : List (String × (Bytes → Action (Except CodecError Bytes))) :=
  [("Core_version", ignoring Version.codec (return version)),
   ("Core_initialize_block", taking headerCodec .unit chain.begin),
   ("Core_execute_block", taking blockCodec .unit (chain.execute form)),
   ("BlockBuilder_apply_extrinsic", taking form.codec ApplyOutcome.codec applyExtrinsic),
   ("BlockBuilder_finalize_block", ignoring headerCodec chain.finish),
   ("BlockBuilder_inherent_extrinsics",
     taking InherentData.codec (.list form.codec) fun data =>
       Action.ask (chain.createInherents form data)),
   ("BlockBuilder_check_inherents",
     taking (blockCodec.pair InherentData.codec) InherentReport.codec fun (block, data) =>
       Action.ask (chain.checkInherents form block.extrinsics data)),
   ("TaggedTransactionQueue_validate_transaction",
     taking (TransactionSource.codec.pair (form.codec.pair (.octets 32))) Validity.codec
       fun (source, extrinsic, hash) => chain.validateTransaction form source extrinsic hash),
   ("TransactionPaymentApi_query_info",
     taking extrinsicAndLength FeeQuote.codec fun (extrinsic, length) =>
       Action.look (chain.extrinsicQuote form extrinsic length)),
   ("TransactionPaymentApi_query_fee_details",
     taking extrinsicAndLength FeeDetails.codec fun (extrinsic, length) =>
       Action.look (chain.extrinsicFee form extrinsic length)),
   ("TransactionPaymentCallApi_query_call_info",
     taking callAndLength FeeQuote.codec fun (call, length) =>
       Action.look (chain.callQuote call length)),
   ("TransactionPaymentCallApi_query_call_fee_details",
     taking callAndLength FeeDetails.codec fun (call, length) =>
       Action.look (chain.callFee call length))]

def call (name : String) (input : Bytes) : Action (Except EntryError Bytes) := do
  match methods.lookup name with
  | none => return .error (.unknownMethod name)
  | some method =>
      match ← method input with
      | .ok output => return .ok output
      | .error cause => return .error (.badInput cause)

end Entry

end StateTransition.Testnet
