import StateTransition.Chain.Basic
import StateTransition.Store.Layer

set_option autoImplicit false

/-! Building and importing blocks. Both begin a block, apply its extrinsics and finish it; an
importer compares the header that comes out with the one it was given. -/

namespace StateTransition.Chain

variable {Account Number Call Form : Type} [DecidableEq Account] [Word Number]
variable (chain : Chain Account Number Call)
variable (form : ExtrinsicForm Account Number Call Form)

/-! ### Hooks -/

def totalWeight (hooks : List (Action Weight)) : Action Weight :=
  hooks.foldlM (fun total hook => return total.saturatingAdd (← hook)) .zero

/-- Lets hooks use the remaining weight, each what those before it have left. -/
def useRemaining (remaining : Weight) (hooks : List (Weight → Action Weight)) : Action Weight :=
  hooks.foldlM
    (fun used hook => return used.saturatingAdd (← hook (remaining.saturatingSub used))) .zero

/-- The list from a place on, and then up to that place. -/
def rotate {α : Type} (items : List α) (place : Nat) : List α :=
  items.drop (place % items.length) ++ items.take (place % items.length)

/-- Whether the chain has other rules than those that were the last to be set up. -/
def isUpgraded (store : Store) : Bool :=
  match Item.lastUpgrade.get store with
  | some last => chain.rules.version.upgrades last
  | none => true

def upgrade : Action Weight := totalWeight chain.upgradeHooks

/-! ### The beginning of a block -/

def upgradeIfNew : Action Weight := do
  if ← Action.look chain.isUpgraded then
    let weight ← chain.upgrade
    Action.change (Item.lastUpgrade.put chain.rules.version.remembered)
    return Weight.zero.saturatingAdd weight
  else return .zero

/-- Begins a block. Of the digest only what was known beforehand counts. The log of events is
emptied first, so that it shows those of an upgrade. -/
def begin (header : Header Number) : Action Unit := do
  Action.change clearEvents
  let upgradeWeight ← chain.upgradeIfNew
  Action.change
    (Environment.setUp header.number header.parentHash (Digest.beforehand header.digest))
  let hookWeight ← totalWeight (chain.beginHooks.map (· header.number))
  let weight := (upgradeWeight.saturatingAdd hookWeight).saturatingAdd chain.rules.weights.baseBlock
  Action.change (Environment.addWeight weight .mandatory)
  Action.change Environment.finishBeginning

/-! ### Extrinsics -/

/-- Applies an extrinsic to the block that is being run. A mandatory call has to succeed. -/
def applyExtrinsic (extrinsic : Form) : Attempt Rejection (Except DispatchError Unit) := do
  let encoded := form.codec.encode extrinsic
  let checked ← Attempt.ask (form.check extrinsic)
  Action.change (Environment.noteExtrinsic encoded)
  let info := form.info extrinsic
  let outcome ← chain.apply checked info encoded.length
  if outcome.toOption.isNone ∧ info.kind = .mandatory then throw (.invalid .badMandatory)
  chain.rules.noteApplied outcome info
  return outcome.plain

/-- The verdict on an extrinsic in the block after the current one, whose hash is given. -/
def validateNext (source : TransactionSource) (extrinsic : Form) (current : Hash) :
    Attempt Rejection ValidTransaction := do
  let next ← Attempt.look fun store =>
    Word.saturatingAdd (Environment.number store : Number) Word.one
  Action.change (Environment.setUp next current [])
  let checked ← Attempt.ask (form.check extrinsic)
  let info := form.info extrinsic
  if info.kind = .mandatory then throw (.invalid .mandatoryValidation)
  Attempt.ask (chain.validate source checked info (form.codec.encode extrinsic).length)

/-- The verdict on an extrinsic. The state stays as it is. -/
def validateTransaction (source : TransactionSource) (extrinsic : Form) (current : Hash) :
    Action Validity :=
  Layer.hypothetically (chain.validateNext form source extrinsic current).run

/-! ### The end of a block -/

/-- Lets the hooks use the weight that is left. The first to be served changes with the number
of the block. -/
def idle (number : Number) : Action Unit := do
  let consumed ← Action.look Item.blockWeight.get
  let remaining := chain.rules.weights.maxBlock.saturatingSub consumed.total
  if remaining.allGreater .zero then
    let hooks := rotate chain.idleHooks (Word.toNat number)
    let used ← useRemaining remaining (hooks.map (· number))
    Action.change (Environment.addWeight used .mandatory)

def idleAndFinish (number : Number) : Action Unit := do
  chain.idle number
  (chain.finishHooks.map (· number)).forM id

/-- Ends the block that is being built and gives its header. -/
def finish : Action (Header Number) := do
  Action.change Environment.finishExtrinsics
  chain.idleAndFinish (← Action.look Environment.number)
  Action.update chain.rules.finishBlock

/-! ### Inherents -/

/-- Whether an extrinsic is an inherent: a call without a signature that some source
derives. -/
def isInherent (extrinsic : Form) : Bool :=
  !form.isSigned extrinsic && InherentSource.isAny chain.inherents (form.call extrinsic)

/-- The number of inherents if they all come first, or the place of the first that does
not. -/
def inherentsFirst (extrinsics : List Form) : Except Nat Nat :=
  let inherents := (extrinsics.takeWhile (chain.isInherent form)).length
  match (extrinsics.drop inherents).findIdx? (chain.isInherent form) with
  | some place => .error (inherents + place)
  | none => .ok inherents

def createInherents (data : InherentData) : Query (List Form) := do
  return (← InherentSource.createAll data chain.inherents).map form.ofCall

/-- Checks calls up to the first fatal fault. Tells whether there was one. -/
def checkCalls (data : InherentData) (report : InherentReport) :
    List Call → Query (Bool × InherentReport)
  | [] => return (false, report)
  | call :: others => do
      match ← InherentSource.checkCall data call report chain.inherents with
      | (true, report) => return (true, report)
      | (false, report) => checkCalls data report others

def checkInherents (extrinsics : List Form) (data : InherentData) : Query InherentReport := do
  let calls := (extrinsics.takeWhile (chain.isInherent form)).map form.call
  match ← chain.checkCalls data .clean calls with
  | (true, report) => return report
  | (false, report) => InherentSource.checkRequired data calls report chain.inherents

/-! ### Importing a block -/

/-- Makes sure that a block follows on the one it names and that its inherents come first. -/
def checkBeginning (block : Block Number Form) (store : Store) : Except Trap Unit := do
  let number := block.header.number
  let parent := Environment.blockHash (Word.saturatingSub number Word.one) store
  if Word.isZero number ∨ parent ≠ block.header.parentHash then throw .parentHash
  match chain.inherentsFirst form block.extrinsics with
  | .ok _ => return ()
  | .error place => throw (.inherentPosition place)

/-- Compares a header with the one that a block was found to have. -/
def compareHeaders (given found : Header Number) : Except Trap Unit := do
  if given.digest.length ≠ found.digest.length then throw .digestLength
  if given.digest ≠ found.digest then throw .digestItem
  if given.stateRoot ≠ found.stateRoot then throw .stateRoot
  if given.extrinsicsRoot ≠ found.extrinsicsRoot then throw .extrinsicsRoot

/-- Applies the extrinsics of a block, none of which may be rejected. -/
def applyAll : List Form → Action Unit
  | [] => return ()
  | extrinsic :: others => do
      match ← (chain.applyExtrinsic form extrinsic).run with
      | .ok _ => applyAll others
      | .error cause => Action.trap (.rejected cause)

/-- Imports a block: runs it and makes sure that it is what its header says. -/
def execute (block : Block Number Form) : Action Unit := do
  chain.begin block.header
  Action.ask (chain.checkBeginning form block)
  chain.applyAll form block.extrinsics
  Action.change Environment.finishExtrinsics
  chain.idleAndFinish block.header.number
  let found ← Action.update chain.rules.finishBlock
  Action.ask fun _ => compareHeaders block.header found

/-! ### Fees of extrinsics and calls -/

/-- What is told of the fee of an extrinsic of some length; without a signature it has
none. -/
def extrinsicQuote (extrinsic : Form) (length : UInt32) (store : Store) : FeeQuote :=
  let info := form.info extrinsic
  if form.isSigned extrinsic then chain.rules.feeQuote length info store
  else ⟨info.weight, info.kind, 0⟩

def extrinsicFee (extrinsic : Form) (length : UInt32) (store : Store) : FeeDetails :=
  if form.isSigned extrinsic then chain.rules.feeDetails length (form.info extrinsic) 0 store
  else ⟨none, 0⟩

def callQuote (call : Call) (length : UInt32) (store : Store) : FeeQuote :=
  chain.rules.feeQuote length (chain.info call) store

def callFee (call : Call) (length : UInt32) (store : Store) : FeeDetails :=
  chain.rules.feeDetails length (chain.info call) 0 store

end StateTransition.Chain
