import StateTransition.Account.Info
import StateTransition.Dispatch.Class

set_option autoImplicit false

/-! What a transaction costs, part by part. -/

namespace StateTransition

structure InclusionFee where
  /-- For the base weight of an extrinsic. -/
  base : Balance
  /-- For the length of the extrinsic. -/
  length : Balance
  /-- For the weight of the call, by the multiplier of the block. -/
  weight : Balance
deriving DecidableEq

namespace InclusionFee

def total (fee : InclusionFee) : Balance :=
  Word.saturatingAdd (Word.saturatingAdd fee.base fee.length) fee.weight

def codec : Codec InclusionFee :=
  (Codec.word.pair (Codec.word.pair .word)).via (fun parts => ⟨parts.1, parts.2.1, parts.2.2⟩)
    (fun fee => (fee.base, fee.length, fee.weight))

end InclusionFee

/-- The fee of a transaction; one that does not pay has its tip only. -/
structure FeeDetails where
  inclusion : Option InclusionFee
  tip : Balance
deriving DecidableEq

namespace FeeDetails

def final (details : FeeDetails) : Balance :=
  Word.saturatingAdd ((details.inclusion.map InclusionFee.total).getD 0) details.tip

def codec : Codec FeeDetails :=
  ((Codec.option InclusionFee.codec).pair .word).via (fun parts => ⟨parts.1, parts.2⟩)
    (fun details => (details.inclusion, details.tip))

end FeeDetails

/-- What is told of an extrinsic before it is sent: its fee is without a tip. -/
structure FeeQuote where
  weight : Weight
  kind : DispatchClass
  fee : Balance
deriving DecidableEq

def FeeQuote.codec : Codec FeeQuote :=
  (Weight.codec.pair (DispatchClass.codec.pair .word)).via
    (fun parts => ⟨parts.1, parts.2.1, parts.2.2⟩)
    (fun quote => (quote.weight, quote.kind, quote.fee))

end StateTransition
