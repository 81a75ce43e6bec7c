import StateTransition.Dispatch.Class

set_option autoImplicit false

/-! Limits on the extrinsics of a block: on their weight by class, and on their length. A
limit that is missing does not restrict. -/

namespace StateTransition

structure ClassLimits where
  baseExtrinsic : Weight
  maxExtrinsic : Option Weight
  maxTotal : Option Weight
  /-- What the class may use in a block that is full. -/
  reserved : Option Weight
deriving DecidableEq

def ClassLimits.codec : Codec ClassLimits :=
  (Weight.codec.pair ((Codec.option Weight.codec).pair ((Codec.option Weight.codec).pair
    (Codec.option Weight.codec)))).via
    (fun parts => ⟨parts.1, parts.2.1, parts.2.2.1, parts.2.2.2⟩)
    (fun limits => (limits.baseExtrinsic, limits.maxExtrinsic, limits.maxTotal, limits.reserved))

structure BlockWeights where
  baseBlock : Weight
  maxBlock : Weight
  classes : PerClass ClassLimits
deriving DecidableEq

namespace BlockWeights

def get (weights : BlockWeights) (kind : DispatchClass) : ClassLimits := weights.classes.get kind

def codec : Codec BlockWeights :=
  (Weight.codec.pair (Weight.codec.pair (PerClass.codec ClassLimits.codec))).via
    (fun parts => ⟨parts.1, parts.2.1, parts.2.2⟩)
    (fun weights => (weights.baseBlock, weights.maxBlock, weights.classes))

end BlockWeights

/-- The greatest length of the extrinsics of a block, in bytes, as each class may fill it. -/
structure BlockLength where
  max : PerClass UInt32
deriving DecidableEq

namespace BlockLength

def codec : Codec BlockLength :=
  (PerClass.codec Codec.word).via (fun max => ⟨max⟩) (fun length => length.max)

def uniform (limit : UInt32) : BlockLength := ⟨.ofFunction fun _ => limit⟩

/-- One limit for every class, of which normal extrinsics may fill a share. -/
def withNormalShare (limit : UInt32) (normal : Perbill) : BlockLength where
  max := (PerClass.ofFunction fun _ => limit).set .normal (normal.ofWord limit)

end BlockLength

/-- The share of a block that normal extrinsics may fill if nothing else is said. -/
def defaultNormalShare : Perbill := .ofPercent _ 75

def BlockLength.standard : BlockLength := .withNormalShare (5 * 1024 * 1024) defaultNormalShare

end StateTransition
