import StateTransition.Action
import StateTransition.Transaction.Check

set_option autoImplicit false

/-! Extrinsics: calls from outside, with or without a signature. What is signed is the call,
the terms and a context that both sides know. -/

namespace StateTransition

structure Signature (Place Proof Number : Type) where
  place : Place
  proof : Proof
  terms : Terms Number
deriving DecidableEq

/-- An extrinsic as it is sent. `Place` is the type of addresses, `Proof` that of signatures
over bytes. -/
structure Extrinsic (Place Proof Number Call : Type) where
  signature : Option (Signature Place Proof Number)
  call : Call
deriving DecidableEq

structure CheckedExtrinsic (Account Number Call : Type) where
  signer : Option (Account × Terms Number)
  call : Call
deriving DecidableEq

namespace Extrinsic

variable {Place Proof Number Call : Type} [Word Number]

/-- The version of the form; its highest bit says whether there is a signature. -/
def formVersion : UInt8 := 4

def signedVersion : UInt8 := formVersion + 128

def signatureCodec (place : Codec Place) (proof : Codec Proof) :
    Codec (Signature Place Proof Number) :=
  (place.pair (proof.pair Terms.codec)).via (fun parts => ⟨parts.1, parts.2.1, parts.2.2⟩)
    (fun signature => (signature.place, signature.proof, signature.terms))

def encodeBody (place : Codec Place) (proof : Codec Proof) (call : Codec Call)
    (extrinsic : Extrinsic Place Proof Number Call) : Bytes :=
  match extrinsic.signature with
  | some signature =>
      signedVersion :: (signatureCodec place proof).encode signature ++ call.encode extrinsic.call
  | none => formVersion :: call.encode extrinsic.call

def decodeBody (place : Codec Place) (proof : Codec Proof) (call : Codec Call) :
    Bytes → Except CodecError (Extrinsic Place Proof Number Call × Bytes)
  | [] => .error .malformed
  | version :: rest => do
      if version % 128 ≠ formVersion then throw .transactionVersion
      if version = formVersion then
        let (call, after) ← call.decode rest
        return (⟨none, call⟩, after)
      else
        let (signature, afterSignature) ← (signatureCodec place proof).decode rest
        let (call, after) ← call.decode afterSignature
        return (⟨some signature, call⟩, after)

def codec (place : Codec Place) (proof : Codec Proof) (call : Codec Call) :
    Codec (Extrinsic Place Proof Number Call) where
  encode extrinsic := Codec.bytes.encode (encodeBody place proof call extrinsic)
  decode bytes :=
    match Codec.decodeLength bytes with
    | .error cause => .error cause
    | .ok (length, body) =>
        match decodeBody place proof call body with
        | .error cause => .error cause
        | .ok (extrinsic, rest) =>
            if body.length - rest.length = length then .ok (extrinsic, rest)
            else .error .lengthPrefix

/-- The address of the signer with the checks, or nothing, and the call. -/
def describe (place : Place → String) (call : String)
    (extrinsic : Extrinsic Place Proof Number Call) : String :=
  let signer :=
    match extrinsic.signature with
    | some signature =>
        "Some((" ++ place signature.place ++ ", " ++ signature.terms.describe ++ "))"
    | none => "None"
  "UncheckedExtrinsic(" ++ signer ++ ", " ++ call ++ ")"

end Extrinsic

/-- The bytes that are signed for an extrinsic: its call, its terms and what belongs to the
context, or the hash of all that if it is long. -/
def signedPayload {Number : Type} [Word Number] (call : Bytes) (terms : Terms Number)
    (context : Bytes) : Bytes :=
  let payload := call ++ Terms.codec.encode terms ++ context
  if 256 < payload.length then (blake256 payload).bytes else payload

namespace CheckedExtrinsic

variable {Account Number Call : Type} [Word Number]

/-- The form of an extrinsic whose signer is taken at its word. -/
def codec (account : Codec Account) (call : Codec Call) :
    Codec (CheckedExtrinsic Account Number Call) :=
  ((Codec.option (account.pair Terms.codec)).pair call).via (fun parts => ⟨parts.1, parts.2⟩)
    (fun extrinsic => (extrinsic.signer, extrinsic.call))

def describe (account : Account → String) (extrinsic : CheckedExtrinsic Account Number Call) :
    String :=
  let signer := extrinsic.signer.elim "None" fun signer => "Some(" ++ account signer.1 ++ ")"
  "TestXt(" ++ signer ++ ", ...)"

end CheckedExtrinsic

end StateTransition
