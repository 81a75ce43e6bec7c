import StateTransition.Event.Log

set_option autoImplicit false

/-! The environment of a block: it is set up before the block is run, follows the extrinsics
as they are applied, and is turned into the block's header at the end. -/

namespace StateTransition.Environment

section

variable {Number : Type} [Word Number]

def number (store : Store) : Number := Item.number.get store

/-- The hash of a block; an unknown one is taken to be zero. -/
def blockHash (number : Number) (store : Store) : Hash := (Item.blockHash.row number).get store

/-- Sets the environment of the block of a number up. The hash of the block before it is
remembered. -/
def setUp (number : Number) (parent : Hash) (digest : Digest) (store : Store) : Store :=
  let store := Item.phase.put .beginning store
  let store := Item.extrinsicIndex.put 0 store
  let store := Item.number.put number store
  let store := Item.digest.put digest store
  let store := Item.parentHash.put parent store
  let store := (Item.blockHash.row (Word.saturatingSub number Word.one)).put parent store
  Item.blockWeight.erase store

end

/-! ### Extrinsics -/

def extrinsicIndex (store : Store) : UInt32 := (Item.extrinsicIndex.get store).getD 0

def extrinsicsLength (store : Store) : UInt32 := (Item.extrinsicsLength.get store).getD 0

def noteExtrinsic (encoded : Bytes) (store : Store) : Store :=
  (Item.extrinsicData.row (extrinsicIndex store)).put encoded store

def nextExtrinsic (store : Store) : Store :=
  let next := extrinsicIndex store + 1
  Item.phase.put (.extrinsic next) (Item.extrinsicIndex.put next store)

def finishBeginning (store : Store) : Store := Item.phase.put (.extrinsic 0) store

def finishExtrinsics (store : Store) : Store :=
  let (index, store) := Item.extrinsicIndex.take store
  Item.phase.put .finalization (Item.extrinsicCount.put (index.getD 0) store)

/-- Takes the forms of the extrinsics out of the store, from an index on. -/
def takeExtrinsics (store : Store) : (count : Nat) → (index : Nat) → List Bytes × Store
  | 0, _ => ([], store)
  | count + 1, index =>
      let (first, store) := (Item.extrinsicData.row (UInt32.ofNat index)).take store
      let (others, store) := takeExtrinsics store count (index + 1)
      (first :: others, store)

/-! ### Weight and digest -/

/-- Counts weight that no limit applies to. -/
def addWeight (weight : Weight) (kind : DispatchClass) (store : Store) : Store :=
  (Item.blockWeight.modify (fun consumed => ((), consumed.add weight kind)) store).2

/-- Says how much of a block has been used, by normal extrinsics alone. Of the length only the
lowest 32 bits count. -/
def setConsumed (weight : Weight) (length : Nat) (store : Store) : Store :=
  Item.extrinsicsLength.put (UInt32.ofNat length)
    (Item.blockWeight.modify (fun consumed => ((), consumed.set .normal weight)) store).2

def addDigestItem (item : DigestItem) (store : Store) : Store :=
  (Item.digest.modify (fun digest => ((), digest ++ [item])) store).2

/-- The version of the rules that were the last to be set up, or zero. -/
def lastSpec (store : Store) : UInt32 := ((Item.lastUpgrade.get store).map (·.spec)).getD 0

end StateTransition.Environment

namespace StateTransition.Rules

variable {Account Number : Type} [DecidableEq Account] [Word Number]
variable (rules : Rules Account Number)

/-- Removes what is kept for the block alone and gives its header. The hash of the block that
is too far back is forgotten, but never that of the first. -/
def finishBlock (store : Store) : Header Number × Store :=
  let store := Item.extrinsicsLength.erase (Item.phase.erase store)
  let number : Number := Environment.number store
  let parentHash := Item.parentHash.get store
  let digest := Item.digest.get store
  let (count, store) := Item.extrinsicCount.take store
  let (extrinsics, store) := Environment.takeExtrinsics store (count.getD 0).toNat 0
  let forgotten := Word.saturatingSub (Word.saturatingSub number rules.hashCount) Word.one
  let store := if Word.isZero forgotten then store else (Item.blockHash.row forgotten).erase store
  ({ parentHash, number, stateRoot := store.root, extrinsicsRoot := orderedRoot extrinsics,
     digest }, store)

/-- What the log says of a call: the weight it used, with the base weight of its class, and
whether it paid. -/
def appliedInfo (outcome : DispatchOutcome) (info : DispatchInfo) : DispatchInfo where
  weight := (outcome.post.actualWeight info).saturatingAdd
    (rules.weights.get info.kind).baseExtrinsic
  kind := info.kind
  pays := outcome.post.finalPays info

/-- Logs how an extrinsic ended and goes on to the next. -/
def noteApplied (outcome : DispatchOutcome) (info : DispatchInfo) : Action Unit := do
  let applied := rules.appliedInfo outcome info
  match outcome with
  | .ok _ => rules.deposit (.system (.extrinsicSuccess applied))
  | .error failure => rules.deposit (.system (.extrinsicFailed failure.error applied))
  Action.change Environment.nextExtrinsic

def setCode (code : Bytes) : Action Unit := do
  Action.change (·.put Item.codeKey code)
  Action.change (Environment.addDigestItem .environmentUpdated)
  rules.deposit (.system .codeUpdated)

def genesisHash : Hash := .filled 32 69

/-- The store in which the first block of a chain is being run. -/
def firstBlock (_ : Rules Account Number) : Store :=
  let settled := KeyMap.ofList
    [((Item.blockHash.row (Word.zero : Number)).key, genesisHash.bytes),
     ((Item.number : Slot Number Number).key, Codec.word.encode (Word.one : Number)),
     (Item.parentHash.key, genesisHash.bytes)]
  .ofMap settled

/-- Writes what a chain begins with: the hash of its first block and the version of its
rules. -/
def writeGenesis (store : Store) : Store :=
  let store := (Item.blockHash.row (Word.zero : Number)).put genesisHash store
  let store := Item.parentHash.put genesisHash store
  let store := Item.lastUpgrade.put rules.version.remembered store
  Item.extrinsicCount.erase store

end StateTransition.Rules
