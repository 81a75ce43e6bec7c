import StateTransition.Block.Digest
import StateTransition.Hash.Blake2

set_option autoImplicit false

/-! Blocks and their headers. A header commits to the block before it, to the extrinsics of
its own block and to the state after them. -/

namespace StateTransition

structure Header (Number : Type) where
  parentHash : Hash
  number : Number
  stateRoot : Hash
  extrinsicsRoot : Hash
  digest : Digest
deriving DecidableEq

namespace Header

variable {Number : Type} [Word Number]

def codec : Codec (Header Number) :=
  ((Codec.octets 32).pair (Codec.compact.pair ((Codec.octets 32).pair
    ((Codec.octets 32).pair Digest.codec)))).via
    (fun parts => ⟨parts.1, parts.2.1, parts.2.2.1, parts.2.2.2.1, parts.2.2.2.2⟩)
    (fun header => (header.parentHash, header.number, header.stateRoot, header.extrinsicsRoot,
      header.digest))

def hash (header : Header Number) : Hash := blake256 (codec.encode header)

def blank (number : Number) : Header Number where
  parentHash := .zero 32
  number
  stateRoot := .zero 32
  extrinsicsRoot := .zero 32
  digest := []

end Header

structure Block (Number Extrinsic : Type) where
  header : Header Number
  extrinsics : List Extrinsic

def Block.codec {Number Extrinsic : Type} [Word Number] (extrinsic : Codec Extrinsic) :
    Codec (Block Number Extrinsic) :=
  (Header.codec.pair (Codec.list extrinsic)).via (fun parts => ⟨parts.1, parts.2⟩)
    (fun block => (block.header, block.extrinsics))

/-- The commitment to a list of byte strings in their order. -/
def orderedRoot (items : List Bytes) : Hash := blake256 ((Codec.list .bytes).encode items)

def extrinsicsRoot {Extrinsic : Type} (codec : Codec Extrinsic) (extrinsics : List Extrinsic) :
    Hash :=
  orderedRoot (extrinsics.map codec.encode)

end StateTransition
