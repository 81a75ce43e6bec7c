import StateTransition.Block.Header
import StateTransition.Proofs.Codec.Sequence

set_option autoImplicit false

/-! Blocks, their headers and digests are read back, as long as the length of each sequence in them
can be written. -/

namespace StateTransition

open Codec (lengthBound)

namespace DigestItem

/-- The data of the item is short enough for its length to be written. -/
def Short : DigestItem → Prop
  | .other data => data.length < lengthBound
  | .consensus _ data => data.length < lengthBound
  | .seal _ data => data.length < lengthBound
  | .preRuntime _ data => data.length < lengthBound
  | .environmentUpdated => True

theorem message_faithful : message.Faithful fun parts => parts.2.length < lengthBound :=
  ((Codec.octets_faithful 4).pair Codec.bytes_faithful).weaken fun _ => by simp

theorem codec_faithful : codec.Faithful Short := by
  apply Codec.tagged_faithful
  · simp [Codec.Apart, Codec.Alternative.carrying, Codec.Alternative.plain, other?, consensus?, seal?,
      preRuntime?]
  · simp only [List.forall_mem_cons]
    refine ⟨Codec.Alternative.carrying_lawful 0 Codec.bytes_faithful (fun _ => Iff.rfl) ?_,
      Codec.Alternative.carrying_lawful 4 message_faithful (fun _ => Iff.rfl) ?_,
      Codec.Alternative.carrying_lawful 5 message_faithful (fun _ => Iff.rfl) ?_,
      Codec.Alternative.carrying_lawful 6 message_faithful (fun _ => Iff.rfl) ?_,
      Codec.Alternative.plain_lawful 8 trivial, List.forall_mem_nil _⟩
    all_goals
      intro value given
      cases value <;> simp [other?, consensus?, seal?, preRuntime?, Prod.ext_iff]
  · intro value
    cases value <;> rfl

end DigestItem

def Digest.Short (digest : Digest) : Prop :=
  digest.length < lengthBound ∧ ∀ item ∈ digest, item.Short

theorem Digest.codec_faithful : Digest.codec.Faithful Digest.Short :=
  Codec.list_faithful DigestItem.codec_faithful

variable {Number : Type} [Word Number]

theorem Header.codec_faithful (narrow : Word.width Number ≤ 67) :
    (Header.codec : Codec (Header Number)).Faithful fun header => header.digest.Short := by
  have hash := Codec.octets_faithful 32
  have parts := hash.pair ((Codec.compact_faithful narrow).pair
    (hash.pair (hash.pair Digest.codec_faithful)))
  refine Codec.Faithful.weaken (Codec.Faithful.via parts (fun _ => rfl) fun _ _ => rfl) ?_
  intro header
  simp

theorem Block.codec_faithful {Extrinsic : Type} (narrow : Word.width Number ≤ 67)
    {extrinsic : Codec Extrinsic} {valid : Extrinsic → Prop} (faithful : extrinsic.Faithful valid) :
    (Block.codec extrinsic : Codec (Block Number Extrinsic)).Faithful fun block =>
      block.header.digest.Short ∧ block.extrinsics.length < lengthBound ∧
        ∀ extrinsic ∈ block.extrinsics, valid extrinsic := by
  have parts := (Header.codec_faithful narrow).pair (Codec.list_faithful faithful)
  exact Codec.Faithful.via parts (fun _ => rfl) fun _ _ => rfl

end StateTransition
