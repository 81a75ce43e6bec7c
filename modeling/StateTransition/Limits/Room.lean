import StateTransition.Block.Environment
import StateTransition.Limits.Basic
import StateTransition.Chain.Rules

set_option autoImplicit false

/-! The room that is left in a block, by weight and by length. -/

namespace StateTransition

def exceeds (weight : Weight) : Option Weight → Bool
  | some limit => weight.anyGreater limit
  | none => false

/-- The rejection of a transaction for which there is no room. -/
def noRoom : Rejection := .invalid .exhaustsResources

namespace BlockWeights

/-- Adds weight to a class; a sum that does not fit is lost if the class has no limit. -/
def accrue? (limits : ClassLimits) (consumed : ConsumedWeight) (weight : Weight)
    (kind : DispatchClass) : Option ConsumedWeight :=
  if limits.maxTotal.isNone ∧ limits.reserved.isNone then some (consumed.add weight kind)
  else consumed.checkedAdd? weight kind

/-- What is consumed with one more extrinsic. The class has to stay below its total; in a
block that is full it has to stay below what is reserved for it. -/
def consumedWith (weights : BlockWeights) (consumed : ConsumedWeight) (info : DispatchInfo) :
    Except Rejection ConsumedWeight :=
  let limits := weights.get info.kind
  match accrue? limits consumed (info.weight.saturatingAdd limits.baseExtrinsic) info.kind with
  | none => .error noRoom
  | some next =>
      let used := next.get info.kind
      if exceeds used limits.maxTotal then .error noRoom
      else if next.total.anyGreater weights.maxBlock && exceeds used limits.reserved then
        .error noRoom
      else .ok next

end BlockWeights

namespace Rules

variable {Account Number : Type} (rules : Rules Account Number)

def checkExtrinsicWeight (info : DispatchInfo) : Except Rejection Unit :=
  if exceeds info.weight (rules.weights.get info.kind).maxExtrinsic then .error noRoom else .ok ()

def lengthWith (info : DispatchInfo) (length : UInt32) (store : Store) :
    Except Rejection UInt32 :=
  let next := Word.saturatingAdd (Environment.extrinsicsLength store) length
  if rules.lengths.max.get info.kind < next then .error noRoom else .ok next

def checkRoom (info : DispatchInfo) (length : UInt32) (store : Store) : Validity := do
  let _ ← rules.lengthWith info length store
  rules.checkExtrinsicWeight info
  return .neutral

/-- The length and the weight that are used with one more extrinsic. -/
def roomWith (info : DispatchInfo) (length : UInt32) (store : Store) :
    Except Rejection (UInt32 × ConsumedWeight) := do
  let nextLength ← rules.lengthWith info length store
  let next ← rules.weights.consumedWith (Item.blockWeight.get store) info
  rules.checkExtrinsicWeight info
  return (nextLength, next)

/-- Takes the room of an extrinsic, or is refused and changes nothing. -/
def takeRoom (info : DispatchInfo) (length : UInt32) (store : Store) :
    Except Rejection Unit × Store :=
  match rules.roomWith info length store with
  | .error cause => (.error cause, store)
  | .ok (nextLength, next) =>
      (.ok (), Item.blockWeight.put next (Item.extrinsicsLength.put nextLength store))

end Rules

/-- Gives back the weight that a call declared and did not use. -/
def returnRoom (info : DispatchInfo) (post : PostInfo) (store : Store) : Store :=
  let unspent := post.unspent info
  if unspent.anyGreater .zero then
    (Item.blockWeight.modify (fun consumed => ((), consumed.reduce unspent info.kind)) store).2
  else store

end StateTransition
