import StateTransition.Trial.Chain

set_option autoImplicit false

/-! Drafts of extrinsics for trial chains. A draft may be signed as the state of the chain
wants it, or otherwise. -/

namespace StateTransition.Trial

inductive Signing where
  /-- The call and the terms in the context of the state. -/
  | inState
  /-- The call and the terms in some other context. -/
  | inContext (context : SignedContext)
  /-- Bytes that have nothing to do with the extrinsic. -/
  | unrelated
deriving DecidableEq

inductive Draft where
  | finished (extrinsic : Extrinsic)
  | unsigned (call : Call)
  /-- `signer` signs in the name of whoever is at the address. -/
  | signed (place : Place) (signer : Account) (terms : Terms Number) (call : Call)
      (signing : Signing)

namespace Draft

/-- What is signed, if that can be said in the state of the chain. -/
def message (rules : Rules Account Number) (terms : Terms Number) (call : Call) :
    Signing → Query (Except Rejection Bytes)
  | .inState => do
      let context ← rules.signedParts terms Check.all
      return context.map (signedPayload (Call.codec.encode call) terms)
  | .inContext context =>
      return .ok (signedPayload (Call.codec.encode call) terms context.encode)
  | .unrelated => return .ok [1, 2, 3]

def extrinsic (rules : Rules Account Number) : Draft → Query (Except Rejection Extrinsic)
  | .finished extrinsic => return .ok extrinsic
  | .unsigned call => return .ok ⟨none, call⟩
  | .signed place signer terms call signing => do
      return (← message rules terms call signing).map fun message =>
        ⟨some ⟨place, ⟨signer, message⟩, terms⟩, call⟩

end Draft

/-- The extrinsic whose signer is taken at its word. An address that is not that of an account
stands for account zero. -/
def Extrinsic.trusted (extrinsic : Extrinsic) : TrustedExtrinsic :=
  ⟨extrinsic.signature.map fun signature =>
    (signature.place.resolve?.getD 0, signature.terms), extrinsic.call⟩

end StateTransition.Trial
