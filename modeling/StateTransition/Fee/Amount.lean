import StateTransition.Fee.Details
import StateTransition.Fee.Multiplier

set_option autoImplicit false

/-! The fee of a transaction: a part for every extrinsic, a part for its length and a part
for its weight, which the multiplier of the block adjusts; and the priority it buys. -/

namespace StateTransition.Rules

variable {Account Number : Type} [DecidableEq Account] [Word Number]
variable (rules : Rules Account Number)

/-- The fee for a weight, of which no more counts than a block can hold. -/
def feeOfWeight (weight : Weight) : Balance :=
  rules.weightFee.fee (weight.lesser rules.weights.maxBlock)

def feeOfLength (length : UInt32) : Balance :=
  rules.lengthFee.fee ⟨Word.convert length, 0⟩

/-- The fee for a weight and a length, if it is paid. -/
def feeParts (length : UInt32) (weight : Weight) (tip : Balance) (pays : Pays)
    (kind : DispatchClass) (store : Store) : FeeDetails :=
  match pays with
  | .no => ⟨none, tip⟩
  | .yes =>
      let inclusion : InclusionFee :=
        { base := rules.feeOfWeight (rules.weights.get kind).baseExtrinsic
          length := rules.feeOfLength length
          weight := (Item.nextMultiplier.get store).times (rules.feeOfWeight weight) }
      ⟨some inclusion, tip⟩

def feeDetails (length : UInt32) (info : DispatchInfo) (tip : Balance) (store : Store) :
    FeeDetails :=
  rules.feeParts length info.weight tip info.pays info.kind store

def actualFeeDetails (length : UInt32) (info : DispatchInfo) (post : PostInfo) (tip : Balance)
    (store : Store) : FeeDetails :=
  rules.feeParts length (post.actualWeight info) tip (post.finalPays info) info.kind store

def fee (length : UInt32) (info : DispatchInfo) (tip : Balance) (store : Store) : Balance :=
  (rules.feeDetails length info tip store).final

def actualFee (length : UInt32) (info : DispatchInfo) (post : PostInfo) (tip : Balance)
    (store : Store) : Balance :=
  (rules.actualFeeDetails length info post tip store).final

/-- What is told of the fee of a call of some length. -/
def feeQuote (length : UInt32) (info : DispatchInfo) (store : Store) : FeeQuote :=
  ⟨info.weight, info.kind, rules.fee length info 0 store⟩

/-! ### Priority -/

/-- How many extrinsics like this one a block could hold, by weight and by length. -/
def capacity (info : DispatchInfo) (length : Nat) : UInt64 :=
  let maxBlock := rules.weights.maxBlock
  let maxLength : UInt64 := Word.convert (rules.lengths.max.get info.kind)
  let weight := (info.weight.larger (.ofBoth 1)).lesser maxBlock
  let length : UInt64 := min (max (Word.clamp length) 1) (max maxLength 1)
  min (maxLength / length) ((maxBlock.quotient? weight).getD 1)

/-- The tip as many times as the block could hold such an extrinsic. An operational extrinsic
has a multiple of its fee as another tip. -/
def priority (info : DispatchInfo) (length : Nat) (tip fee : Balance) : UInt64 :=
  let capacity := rules.capacity info length
  let scaled := Word.saturatingMul (Word.saturatingAdd tip 1) capacity
  match info.kind with
  | .normal | .mandatory => scaled
  | .operational =>
      let virtualTip := Word.saturatingMul fee (Word.convert rules.operationalMultiplier)
      Word.saturatingAdd scaled (Word.saturatingMul virtualTip capacity)

end StateTransition.Rules
