import StateTransition.Proofs.Codec.Sequence
import StateTransition.Proofs.Era
import StateTransition.Transaction.Extrinsic

set_option autoImplicit false

/-! Extrinsics are read back, and only those are read that have the right version and behind the
right length. -/

namespace StateTransition

open Codec (lengthBound encodeCompact)

variable {Place Proof Number Call : Type} [Word Number]

theorem Terms.codec_faithful (narrow : Word.width Number ≤ 67) :
    (Terms.codec : Codec (Terms Number)).Faithful fun terms => terms.era.Made := by
  have tip : (Codec.compact : Codec Balance).Faithful fun _ => True :=
    Codec.compact_faithful (by decide)
  have parts := Era.codec_faithful.pair ((Codec.compact_faithful narrow).pair tip)
  refine Codec.Faithful.weaken (Codec.Faithful.via parts (fun _ => rfl) fun _ _ => rfl) ?_
  intro terms
  simp

namespace Extrinsic

variable {place : Codec Place} {proof : Codec Proof} {call : Codec Call}
variable {placeValid : Place → Prop} {proofValid : Proof → Prop} {callValid : Call → Prop}

private theorem signatureCodec_faithful (narrow : Word.width Number ≤ 67)
    (placeFaithful : place.Faithful placeValid) (proofFaithful : proof.Faithful proofValid) :
    (signatureCodec place proof : Codec (Signature Place Proof Number)).Faithful fun signature =>
      placeValid signature.place ∧ proofValid signature.proof ∧ signature.terms.era.Made := by
  have parts := placeFaithful.pair (proofFaithful.pair (Terms.codec_faithful narrow))
  exact Codec.Faithful.via parts (fun _ => rfl) fun _ _ => rfl

/-! ### The body -/

/-- What the parts of an extrinsic have to be for it to be read back. -/
def PartsValid (placeValid : Place → Prop) (proofValid : Proof → Prop) (callValid : Call → Prop)
    (extrinsic : Extrinsic Place Proof Number Call) : Prop :=
  (∀ signature, extrinsic.signature = some signature →
    placeValid signature.place ∧ proofValid signature.proof ∧ signature.terms.era.Made) ∧
      callValid extrinsic.call

private theorem decodeBody_unsigned (rest : Bytes) :
    (decodeBody place proof call (formVersion :: rest) : Decoded (Extrinsic Place Proof Number Call)) =
      match call.decode rest with
      | .error cause => .error cause
      | .ok (given, after) => .ok (⟨none, given⟩, after) := by
  have right : ¬formVersion % 128 ≠ formVersion := by decide
  unfold decodeBody
  dsimp only
  rw [if_neg right, if_pos rfl]
  cases call.decode rest <;> rfl

private theorem decodeBody_signed (rest : Bytes) :
    (decodeBody place proof call (signedVersion :: rest) :
        Decoded (Extrinsic Place Proof Number Call)) =
      match (signatureCodec place proof).decode rest with
      | .error cause => .error cause
      | .ok (signature, between) =>
          match call.decode between with
          | .error cause => .error cause
          | .ok (given, after) => .ok (⟨some signature, given⟩, after) := by
  have right : ¬signedVersion % 128 ≠ formVersion := by decide
  have signed : ¬signedVersion = formVersion := by decide
  unfold decodeBody
  dsimp only
  rw [if_neg right, if_neg signed]
  cases (signatureCodec place proof : Codec (Signature Place Proof Number)).decode rest with
  | error cause => rfl
  | ok parts =>
      obtain ⟨signature, between⟩ := parts
      change Except.bind (call.decode between) _ = _
      dsimp only
      cases call.decode between <;> rfl

private theorem decodeBody_version {version : UInt8} {rest after : Bytes}
    {extrinsic : Extrinsic Place Proof Number Call}
    (decoded : decodeBody place proof call (version :: rest) = .ok (extrinsic, after)) :
    version = formVersion ∨ version = signedVersion := by
  by_cases same : version % 128 = formVersion
  · have remainder := congrArg UInt8.toNat same
    rw [UInt8.toNat_mod] at remainder
    change version.toNat % 128 = 4 at remainder
    have bounded := version.toNat_lt
    have cases : version.toNat = 4 ∨ version.toNat = 132 := by omega
    exact cases.imp (fun four => UInt8.toNat_inj.mp four) fun more => UInt8.toNat_inj.mp more
  · unfold decodeBody at decoded
    dsimp only at decoded
    rw [if_pos same] at decoded
    cases decoded

theorem decodeBody_encodeBody (narrow : Word.width Number ≤ 67)
    (placeFaithful : place.Faithful placeValid) (proofFaithful : proof.Faithful proofValid)
    (callFaithful : call.Faithful callValid) (extrinsic : Extrinsic Place Proof Number Call)
    (rest : Bytes) (valid : PartsValid placeValid proofValid callValid extrinsic) :
    decodeBody place proof call (encodeBody place proof call extrinsic ++ rest) =
      .ok (extrinsic, rest) := by
  obtain ⟨signature, given⟩ := extrinsic
  have readCall := callFaithful.decode_encode given rest valid.2
  cases signature with
  | none =>
      change decodeBody place proof call (formVersion :: (call.encode given ++ rest)) = _
      rw [decodeBody_unsigned, readCall]
  | some signature =>
      have readSignature := (signatureCodec_faithful narrow placeFaithful proofFaithful).decode_encode
        signature (call.encode given ++ rest) (valid.1 signature rfl)
      change decodeBody place proof call (signedVersion ::
        (((signatureCodec place proof).encode signature ++ call.encode given) ++ rest)) = _
      rw [List.append_assoc, decodeBody_signed, readSignature]
      dsimp only
      rw [readCall]

theorem decodeBody_eq_ok (narrow : Word.width Number ≤ 67)
    (placeFaithful : place.Faithful placeValid) (proofFaithful : proof.Faithful proofValid)
    (callFaithful : call.Faithful callValid) {bytes rest : Bytes}
    {extrinsic : Extrinsic Place Proof Number Call}
    (decoded : decodeBody place proof call bytes = .ok (extrinsic, rest)) :
    PartsValid placeValid proofValid callValid extrinsic ∧
      bytes = encodeBody place proof call extrinsic ++ rest := by
  cases bytes with
  | nil => cases decoded
  | cons version after =>
      rcases decodeBody_version decoded with rfl | rfl
      · rw [decodeBody_unsigned] at decoded
        cases readCall : call.decode after with
        | error cause =>
            rw [readCall] at decoded
            cases decoded
        | ok parts =>
            rw [readCall] at decoded
            cases decoded
            obtain ⟨callIs, split⟩ := callFaithful.encode_of_decode _ _ _ readCall
            refine ⟨⟨nofun, callIs⟩, ?_⟩
            rw [split]
            rfl
      · rw [decodeBody_signed] at decoded
        cases readSignature : (signatureCodec place proof : Codec (Signature Place Proof Number)).decode
            after with
        | error cause =>
            rw [readSignature] at decoded
            cases decoded
        | ok first =>
            rw [readSignature] at decoded
            dsimp only at decoded
            cases readCall : call.decode first.2 with
            | error cause =>
                rw [readCall] at decoded
                cases decoded
            | ok parts =>
                rw [readCall] at decoded
                cases decoded
                obtain ⟨signatureIs, before⟩ := (signatureCodec_faithful narrow placeFaithful
                  proofFaithful).encode_of_decode _ _ _ readSignature
                obtain ⟨callIs, split⟩ := callFaithful.encode_of_decode _ _ _ readCall
                refine ⟨⟨fun other same => by cases same; exact signatureIs, callIs⟩, ?_⟩
                rw [before, split, ← List.append_assoc]
                rfl

/-! ### Behind its length -/

private theorem encode_eq (extrinsic : Extrinsic Place Proof Number Call) :
    (codec place proof call).encode extrinsic =
      encodeCompact (encodeBody place proof call extrinsic).length ++
        encodeBody place proof call extrinsic := rfl

theorem codec_faithful (narrow : Word.width Number ≤ 67)
    (placeFaithful : place.Faithful placeValid) (proofFaithful : proof.Faithful proofValid)
    (callFaithful : call.Faithful callValid) :
    (codec place proof call : Codec (Extrinsic Place Proof Number Call)).Faithful fun extrinsic =>
      PartsValid placeValid proofValid callValid extrinsic ∧
        (encodeBody place proof call extrinsic).length < lengthBound where
  decode_encode extrinsic rest valid := by
    have read := decodeBody_encodeBody narrow placeFaithful proofFaithful callFaithful extrinsic rest
      valid.1
    have announced := Codec.decodeLength_encodeCompact valid.2
      (encodeBody place proof call extrinsic ++ rest)
    have counted : (encodeBody place proof call extrinsic ++ rest).length - rest.length =
        (encodeBody place proof call extrinsic).length := by
      rw [List.length_append, Nat.add_sub_cancel]
    rw [encode_eq, List.append_assoc]
    simp only [codec, announced, read, counted, if_true]
  encode_of_decode bytes extrinsic rest decoded := by
    simp only [codec] at decoded
    cases readLength : Codec.decodeLength bytes with
    | error cause =>
        rw [readLength] at decoded
        cases decoded
    | ok parts =>
        obtain ⟨length, body⟩ := parts
        rw [readLength] at decoded
        dsimp only at decoded
        cases readBody : (decodeBody place proof call body :
            Decoded (Extrinsic Place Proof Number Call)) with
        | error cause =>
            rw [readBody] at decoded
            cases decoded
        | ok found =>
            obtain ⟨read, after⟩ := found
            rw [readBody] at decoded
            dsimp only at decoded
            split at decoded
            · rename_i exactLength
              cases decoded
              obtain ⟨fits, announced⟩ := Codec.decodeLength_eq_ok readLength
              obtain ⟨valid, split⟩ :=
                decodeBody_eq_ok narrow placeFaithful proofFaithful callFaithful readBody
              -- The length that is announced was compared with what was taken, not with the body.
              have counted : (encodeBody place proof call extrinsic).length = length := by
                rw [← exactLength, split, List.length_append, Nat.add_sub_cancel]
              refine ⟨⟨valid, counted ▸ fits⟩, ?_⟩
              rw [encode_eq, counted, announced, split, List.append_assoc]
            · cases decoded

end Extrinsic

end StateTransition
