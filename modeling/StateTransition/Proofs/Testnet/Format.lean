import StateTransition.Proofs.Block
import StateTransition.Proofs.Transaction.Format
import StateTransition.Testnet.Network

set_option autoImplicit false

/-! The form of blocks of the test network. Each block has one form, and the bytes of no other block are
read as it, whatever is left out or added in between. -/

namespace StateTransition

open Codec (lengthBound)

/-! ### Addresses and calls -/

/-- Bytes in the place of an account are few enough for their number to be written. -/
def Address.Short {Account Index : Type} : Address Account Index → Prop
  | .raw data => data.length < lengthBound
  | _ => True

theorem Address.codec_faithful {Account Index : Type} {account : Codec Account} {index : Codec Index}
    (accountFaithful : account.Faithful fun _ => True)
    (indexFaithful : index.Faithful fun _ => True) :
    (Address.codec account index).Faithful Short := by
  apply Codec.tagged_faithful
  · simp [Codec.Apart, Codec.Alternative.carrying]
  · simp only [List.forall_mem_cons]
    refine ⟨Codec.Alternative.carrying_lawful 0 accountFaithful (fun _ => Iff.rfl) ?_,
      Codec.Alternative.carrying_lawful 1 indexFaithful (fun _ => Iff.rfl) ?_,
      Codec.Alternative.carrying_lawful 2 Codec.bytes_faithful (fun _ => Iff.rfl) ?_,
      Codec.Alternative.carrying_lawful 3 (Codec.octets_faithful 32) (fun _ => Iff.rfl) ?_,
      Codec.Alternative.carrying_lawful 4 (Codec.octets_faithful 20) (fun _ => Iff.rfl) ?_,
      List.forall_mem_nil _⟩
    all_goals
      intro value given
      cases value <;> simp
  · intro value
    cases value <;> rfl

def SystemCall.Short : SystemCall → Prop
  | .remark text => text.length < lengthBound
  | .setCode code => code.length < lengthBound
  | .setStorage items => items.length < lengthBound ∧
      ∀ item ∈ items, item.1.length < lengthBound ∧ item.2.length < lengthBound
  | .killStorage keys => keys.length < lengthBound ∧ ∀ key ∈ keys, key.length < lengthBound
  | .killUnder head _ => head.length < lengthBound
  | .remarkWithEvent text => text.length < lengthBound
  | .authorizeUpgrade _ => True
  | .applyUpgrade code => code.length < lengthBound

theorem SystemCall.codec_faithful : SystemCall.codec.Faithful Short := by
  have bytes := Codec.bytes_faithful
  have headed : (Codec.pair .bytes .word : Codec (Bytes × UInt32)).Faithful fun parts =>
      parts.1.length < lengthBound := (bytes.pair Codec.word_faithful).weaken fun _ => by simp
  apply Codec.tagged_faithful
  · simp [Codec.Apart, Codec.Alternative.carrying]
  · simp only [List.forall_mem_cons]
    refine ⟨Codec.Alternative.carrying_lawful 0 bytes (fun _ => Iff.rfl) ?_,
      Codec.Alternative.carrying_lawful 2 bytes (fun _ => Iff.rfl) ?_,
      Codec.Alternative.carrying_lawful 4 (Codec.list_faithful (bytes.pair bytes))
        (fun _ => Iff.rfl) ?_,
      Codec.Alternative.carrying_lawful 5 (Codec.list_faithful bytes) (fun _ => Iff.rfl) ?_,
      Codec.Alternative.carrying_lawful 6 headed (fun _ => Iff.rfl) ?_,
      Codec.Alternative.carrying_lawful 7 bytes (fun _ => Iff.rfl) ?_,
      Codec.Alternative.carrying_lawful 9 (Codec.octets_faithful 32) (fun _ => Iff.rfl) ?_,
      Codec.Alternative.carrying_lawful 11 bytes (fun _ => Iff.rfl) ?_, List.forall_mem_nil _⟩
    all_goals
      intro value given
      cases value <;> simp [Prod.ext_iff]
  · intro value
    cases value <;> rfl

/-- What a call on balances says of the addresses in it. -/
def BalanceCall.AllTargets {Target : Type} (valid : Target → Prop) : BalanceCall Target → Prop
  | .transferAllowDeath target _ => valid target
  | .forceTransfer source target _ => valid source ∧ valid target
  | .transferKeepAlive target _ => valid target
  | .forceSetBalance who _ => valid who

theorem BalanceCall.codec_faithful {Target : Type} {target : Codec Target} {valid : Target → Prop}
    (faithful : target.Faithful valid) :
    (BalanceCall.codec target).Faithful (AllTargets valid) := by
  have amount : (target.pair .word : Codec (Target × Balance)).Faithful fun parts =>
      valid parts.1 := (faithful.pair Codec.word_faithful).weaken fun _ => by simp
  apply Codec.tagged_faithful
  · simp [Codec.Apart, Codec.Alternative.carrying]
  · simp only [List.forall_mem_cons]
    refine ⟨Codec.Alternative.carrying_lawful 0 amount (fun _ => Iff.rfl) ?_,
      Codec.Alternative.carrying_lawful 2 (faithful.pair amount) (fun _ => Iff.rfl) ?_,
      Codec.Alternative.carrying_lawful 3 amount (fun _ => Iff.rfl) ?_,
      Codec.Alternative.carrying_lawful 8 amount (fun _ => Iff.rfl) ?_, List.forall_mem_nil _⟩
    all_goals
      intro value given
      cases value <;> simp [Prod.ext_iff]
  · intro value
    cases value <;> rfl

private theorem Timestamp.callCodec_faithful : Timestamp.callCodec.Faithful fun _ => True := by
  apply Codec.tagged_faithful
  · simp [Codec.Apart]
  · simp only [List.forall_mem_cons]
    refine ⟨?_, List.forall_mem_nil _⟩
    refine Codec.Alternative.carrying_lawful 0 Codec.word_faithful (fun _ => Iff.rfl) ?_
    intro value given
    cases value
    simp
  · intro value
    cases value
    rfl

namespace Testnet

private theorem placeCodec_faithful : placeCodec.Faithful Address.Short :=
  Address.codec_faithful (Codec.octets_faithful 32) Codec.unit_faithful

namespace Call

def Short : Call → Prop
  | .system call => call.Short
  | .timestamp _ => True
  | .balances call => call.AllTargets Address.Short

theorem codec_faithful : codec.Faithful Short := by
  apply Codec.tagged_faithful
  · simp [Codec.Apart, Codec.Alternative.carrying]
  · simp only [List.forall_mem_cons]
    refine ⟨Codec.Alternative.carrying_lawful 0 SystemCall.codec_faithful (fun _ => Iff.rfl) ?_,
      Codec.Alternative.carrying_lawful 1 Timestamp.callCodec_faithful (fun _ => Iff.rfl) ?_,
      Codec.Alternative.carrying_lawful 2 (BalanceCall.codec_faithful placeCodec_faithful)
        (fun _ => Iff.rfl) ?_, List.forall_mem_nil _⟩
    all_goals
      intro value given
      cases value <;> simp
  · intro value
    cases value <;> rfl

theorem encode_registered (call : Call) : ∃ part number arguments,
    codec.encode call = part :: number :: arguments ∧ (nameOf? (part, number)).isSome = true := by
  cases call with
  | system call => cases call <;> exact ⟨_, _, _, rfl, by decide⟩
  | timestamp call => cases call; exact ⟨_, _, _, rfl, by decide⟩
  | balances call => cases call <;> exact ⟨_, _, _, rfl, by decide⟩

end Call

/-! ### Extrinsics and blocks -/

def bodyOf (extrinsic : Extrinsic) : Bytes :=
  StateTransition.Extrinsic.encodeBody placeCodec (.octets 64) Call.codec extrinsic

/-- The era is one that is made, and the length of each sequence and of the whole can be written. -/
def ExtrinsicFits (extrinsic : Extrinsic) : Prop :=
  StateTransition.Extrinsic.PartsValid Address.Short (fun _ => True) Call.Short extrinsic ∧
    (bodyOf extrinsic).length < lengthBound

structure BlockFits (block : Block Number Extrinsic) : Prop where
  digest : block.header.digest.Short
  count : block.extrinsics.length < lengthBound
  extrinsics : ∀ extrinsic ∈ block.extrinsics, ExtrinsicFits extrinsic

def signedOf (extrinsic : Extrinsic) : Bytes :=
  (extrinsic.signature.map
    (StateTransition.Extrinsic.signatureCodec placeCodec (.octets 64)).encode).getD []

/-- The length of what follows, the version with a mark on it where there is a signature, the
signature, and the numbers of a known call before its arguments. -/
def Framed (extrinsic : Extrinsic) (bytes : Bytes) : Prop :=
  bytes = Codec.encodeCompact (bodyOf extrinsic).length ++ bodyOf extrinsic ∧
    ∃ part number arguments,
      bodyOf extrinsic = (if extrinsic.signature.isSome then 128 + 4 else 4) ::
        (signedOf extrinsic ++ part :: number :: arguments) ∧
      (Call.nameOf? (part, number)).isSome = true

theorem form_codec_faithful : form.codec.Faithful ExtrinsicFits :=
  StateTransition.Extrinsic.codec_faithful (by decide) placeCodec_faithful
    (Codec.octets_faithful 64) Call.codec_faithful

theorem blockCodec_faithful : blockCodec.Faithful BlockFits := by
  refine (Block.codec_faithful (by decide) form_codec_faithful).weaken fun block => ?_
  exact ⟨fun ⟨digest, count, extrinsics⟩ => ⟨digest, count, extrinsics⟩,
    fun fits => ⟨fits.digest, fits.count, fits.extrinsics⟩⟩

theorem encode_framed (extrinsic : Extrinsic) :
    Framed extrinsic (form.codec.encode extrinsic) := by
  obtain ⟨signature, call⟩ := extrinsic
  obtain ⟨part, number, arguments, encoded, registered⟩ := Call.encode_registered call
  refine ⟨rfl, part, number, arguments, ?_, registered⟩
  rw [← encoded]
  cases signature <;> rfl

/-- Each block that fits is read back, with nothing left and whatever follows. Whatever is read,
as a block or as an extrinsic, fits and is written in the very bytes that were taken for it; and an
extrinsic is written, and read, behind its own length, in the one version and with a call that is
known. -/
theorem blockCodec_bijective :
    (∀ block, BlockFits block →
        blockCodec.decodeAll (blockCodec.encode block) = .ok block ∧
          ∀ rest, blockCodec.decode (blockCodec.encode block ++ rest) = .ok (block, rest)) ∧
      (∀ extrinsic, Framed extrinsic (form.codec.encode extrinsic)) ∧
      (∀ bytes block rest, blockCodec.decode bytes = .ok (block, rest) →
        BlockFits block ∧ bytes = blockCodec.encode block ++ rest) ∧
      ∀ bytes extrinsic rest, form.codec.decode bytes = .ok (extrinsic, rest) →
        ExtrinsicFits extrinsic ∧ ∃ taken, bytes = taken ++ rest ∧
          taken = form.codec.encode extrinsic ∧ Framed extrinsic taken := by
  refine ⟨?_, encode_framed, ?_, ?_⟩
  · intro block fits
    exact ⟨blockCodec_faithful.decodeAll_encode block fits, fun rest =>
      blockCodec_faithful.decode_encode block rest fits⟩
  · intro bytes block rest decoded
    exact blockCodec_faithful.encode_of_decode bytes block rest decoded
  · intro bytes extrinsic rest decoded
    obtain ⟨fits, split⟩ := form_codec_faithful.encode_of_decode bytes extrinsic rest decoded
    exact ⟨fits, _, split, rfl, encode_framed extrinsic⟩

/-- A block with a message for the engine and with a signed remark in a mortal era. -/
theorem blockCodec_bijective_mortal :
    let terms : Terms Number := { era := .around 5000 12345, nonce := 3, tip := 70000 }
    let remark : Extrinsic :=
      { signature := some ⟨.raw [7], .zero 64, terms⟩, call := .system (.remark [1, 2]) }
    let header : Header Number := { Header.blank 9 with digest := [.consensus (.zero 4) [5]] }
    let block : Block Number Extrinsic := ⟨header, [remark]⟩
    BlockFits block ∧ blockCodec.decodeAll (blockCodec.encode block) = .ok block := by
  intro terms remark header block
  have made : terms.era.Made := Or.inr ⟨5000, 12345, rfl⟩
  have bounded : (1 : Nat) < lengthBound ∧ 2 < lengthBound := by decide
  have fits : BlockFits block := by
    refine ⟨⟨bounded.1, ?_⟩, bounded.1, ?_⟩
    · intro item member
      cases List.mem_singleton.mp member
      exact bounded.1
    · intro extrinsic member
      cases List.mem_singleton.mp member
      refine ⟨⟨?_, bounded.2⟩, by decide⟩
      intro signature same
      cases same
      exact ⟨bounded.1, trivial, made⟩
  exact ⟨fits, (blockCodec_bijective.1 block fits).1⟩

end Testnet

end StateTransition
