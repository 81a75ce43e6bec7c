import StateTransition.Block.Environment

set_option autoImplicit false

/-! The multiplier of weight fees, from block to block. A targeted multiplier grows when
normal extrinsics use more of a block than the target and shrinks when they use less. -/

namespace StateTransition

/-- The multiplier of the next block, which is one before the first. -/
def Item.nextMultiplier : Slot Fixed Fixed :=
  .valued (areaOf "TransactionPayment" "NextFeeMultiplier")
    (Codec.word.via Fixed.mk Fixed.parts) .one

namespace Rules

variable {Account Number : Type} [DecidableEq Account] [Word Number]
variable (rules : Rules Account Number)

def normalLimit : Weight :=
  (rules.weights.get .normal).maxTotal.getD rules.weights.maxBlock

/-- What normal extrinsics have used and may use, in the dimension that is filled more. -/
def scarcer (used limit : Weight) : UInt64 × UInt64 :=
  let filled (used limit : UInt64) : Perbill := .ofRatio _ used.toNat (max limit.toNat 1)
  if (filled used.refTime limit.refTime).parts < (filled used.proofSize limit.proofSize).parts then
    (used.proofSize, limit.proofSize)
  else (used.refTime, limit.refTime)

/-- Moves the multiplier for a block that used so much of the limit: by the factor
`1 + v d + v² d² / 2`, where `v` is the variability and `d` the distance from the target as a
share of the limit, or by `1 - v d + v² d² / 2` below the target. -/
def moved (previous variability : Fixed) (target : Perquintill) (used limit : UInt64) : Fixed :=
  let wanted := target.of limit.toNat
  let distance := (used.toNat - wanted) + (wanted - used.toNat)
  let ratio := Fixed.ofRatio distance (max limit.toNat 1)
  let first := variability.saturatingMul ratio
  let second := ((variability.saturatingMul variability).divide (.ofInteger 2)).saturatingMul
    (ratio.saturatingMul ratio)
  if wanted ≤ used.toNat then
    previous.saturatingAdd ((first.saturatingAdd second).saturatingMul previous)
  else previous.saturatingSub ((first.saturatingSub second).saturatingMul previous)

/-- The multiplier that follows on `previous` after the block in the store. -/
def multiplierAfter (previous : Fixed) (store : Store) : Except Trap Fixed :=
  match rules.multiplierRule with
  | .kept => .ok previous
  | .constant value => .ok value
  | .targeted target variability least most =>
      let limit := rules.normalLimit
      let used := ((Item.blockWeight.get store).get .normal).lesser limit
      let (used, limit) := scarcer used limit
      match (moved (previous.max least) variability target used limit).clamp? least most with
      | some next => .ok next
      | none => .error .multiplierBounds

def updateMultiplier : Action Unit := do
  let previous ← Action.look Item.nextMultiplier.get
  let next ← Action.ask (rules.multiplierAfter previous)
  Action.change (Item.nextMultiplier.put next)

def hundredthAbove (weight : Weight) : Except Trap Weight :=
  match weight.checkedAdd? (weight.divide 100) with
  | some sum => .ok sum
  | none => .error .additionOverflow

/-- Makes sure that the multiplier can grow again from its least value, in blocks that are
one hundredth fuller than the target. -/
def checkMultiplier : Except Trap Unit := do
  match (rules.weights.get .normal).maxTotal with
  | none => .error .normalUnlimited
  | some limit =>
      let target := limit.share rules.multiplierRule.target
      if (target.divide 100).isZero then return ()
      let used ← hundredthAbove target
      let least := rules.multiplierRule.least
      let next ← rules.multiplierAfter least (Environment.setConsumed used 0 .empty)
      if next.toNat ≤ least.toNat then .error .multiplierTooLow

end Rules

end StateTransition
