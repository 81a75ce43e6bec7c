import StateTransition.Codec.Compact

set_option autoImplicit false

/-! The digest of a block: messages between the chain and the engines that agree on its
blocks. -/

namespace StateTransition

abbrev EngineId := Octets 4

inductive DigestItem where
  | other (data : Bytes)
  /-- From the chain to the engine. -/
  | consensus (engine : EngineId) (data : Bytes)
  /-- Put on by the engine, and never seen by the chain. -/
  | seal (engine : EngineId) (data : Bytes)
  /-- From the engine to the chain, before the block is run. -/
  | preRuntime (engine : EngineId) (data : Bytes)
  | environmentUpdated
deriving DecidableEq

namespace DigestItem

def message : Codec (EngineId × Bytes) := (Codec.octets 4).pair .bytes

def preRuntime? : DigestItem → Option (EngineId × Bytes)
  | .preRuntime engine data => some (engine, data)
  | _ => none

def consensus? : DigestItem → Option (EngineId × Bytes)
  | .consensus engine data => some (engine, data)
  | _ => none

def seal? : DigestItem → Option (EngineId × Bytes)
  | .seal engine data => some (engine, data)
  | _ => none

def other? : DigestItem → Option Bytes
  | .other data => some data
  | _ => none

def codec : Codec DigestItem := .tagged
  [.carrying 0 .bytes .other other?,
   .carrying 4 message (fun parts => .consensus parts.1 parts.2) consensus?,
   .carrying 5 message (fun parts => .seal parts.1 parts.2) seal?,
   .carrying 6 message (fun parts => .preRuntime parts.1 parts.2) preRuntime?,
   .plain 8 .environmentUpdated]

/-- What the given engine has told the chain, if it can be read. -/
def fromEngine? {α : Type} (item : DigestItem) (engine : EngineId) (codec : Codec α) : Option α :=
  match item.preRuntime? with
  | some (sender, data) => if sender = engine then codec.decodeFront? data else none
  | none => none

end DigestItem

abbrev Digest := List DigestItem

namespace Digest

def codec : Codec Digest := .list DigestItem.codec

/-- What the engines told the chain before the block was run. -/
def beforehand (digest : Digest) : Digest := digest.filter (·.preRuntime?.isSome)

def firstOther? (digest : Digest) : Option Bytes := digest.findSome? DigestItem.other?

end Digest

end StateTransition
