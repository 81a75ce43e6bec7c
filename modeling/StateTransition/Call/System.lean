import StateTransition.Account.References
import StateTransition.Block.Environment
import StateTransition.Call.Layered
import StateTransition.Origin

set_option autoImplicit false

/-! Calls on the chain itself: remarks, upgrades of its code, and direct changes of its
store. -/

namespace StateTransition

inductive SystemCall where
  | remark (text : Bytes)
  | setCode (code : Bytes)
  | setStorage (items : List (Bytes × Bytes))
  | killStorage (keys : List Bytes)
  | killUnder (head : Bytes) (subkeys : UInt32)
  | remarkWithEvent (text : Bytes)
  | authorizeUpgrade (hash : Hash)
  | applyUpgrade (code : Bytes)
deriving DecidableEq

namespace SystemCall

def codec : Codec SystemCall := .tagged
  [.carrying 0 .bytes .remark (fun | .remark text => some text | _ => none),
   .carrying 2 .bytes .setCode (fun | .setCode code => some code | _ => none),
   .carrying 4 (.list (.pair .bytes .bytes)) .setStorage
     (fun | .setStorage items => some items | _ => none),
   .carrying 5 (.list .bytes) .killStorage (fun | .killStorage keys => some keys | _ => none),
   .carrying 6 (.pair .bytes .word) (fun parts => .killUnder parts.1 parts.2)
     (fun | .killUnder head subkeys => some (head, subkeys) | _ => none),
   .carrying 7 .bytes .remarkWithEvent
     (fun | .remarkWithEvent text => some text | _ => none),
   .carrying 9 (.octets 32) .authorizeUpgrade
     (fun | .authorizeUpgrade hash => some hash | _ => none),
   .carrying 11 .bytes .applyUpgrade (fun | .applyUpgrade code => some code | _ => none)]

/-- The number of items as far as it can be counted in 32 bits. -/
def itemCount {α : Type} (items : List α) : UInt64 := (UInt32.ofNat items.length).toUInt64

/-- Weights by measurement; `unit` is what an access to the store weighs. -/
def weight (unit : StoreWeight) : SystemCall → Weight
  | .remark text =>
      Weight.saturatingAdd ⟨2091000, 0⟩ (Weight.saturatingMul ⟨387, 0⟩ (itemCount text))
  | .setCode _ =>
      (Weight.saturatingAdd ⟨102442000, 1485⟩ (unit.reads 1)).saturatingAdd (unit.writes 2)
  | .setStorage items =>
      let count := itemCount items
      (Weight.saturatingAdd ⟨2012000, 0⟩ (Weight.saturatingMul ⟨779491, 0⟩ count)).saturatingAdd
        (unit.writes count)
  | .killStorage keys =>
      let count := itemCount keys
      (Weight.saturatingAdd ⟨2042000, 0⟩ (Weight.saturatingMul ⟨597350, 0⟩ count)).saturatingAdd
        (unit.writes count)
  | .killUnder _ subkeys =>
      let count : UInt64 := Word.convert (Word.saturatingAdd subkeys 1)
      let work := Weight.saturatingAdd ⟨3872000, 86⟩ (Weight.saturatingMul ⟨1130441, 0⟩ count)
      ((work.saturatingAdd (unit.reads count)).saturatingAdd (unit.writes count)).saturatingAdd
        (Weight.saturatingMul ⟨0, 70⟩ count)
  | .remarkWithEvent text =>
      Weight.saturatingAdd ⟨5997000, 0⟩ (Weight.saturatingMul ⟨1732, 0⟩ (itemCount text))
  | .authorizeUpgrade _ => Weight.saturatingAdd ⟨8731000, 0⟩ (unit.writes 1)
  | .applyUpgrade _ =>
      (Weight.saturatingAdd ⟨106128000, 1518⟩ (unit.reads 2)).saturatingAdd (unit.writes 3)

/-- Remarks are normal calls, all others are operational. -/
def kind : SystemCall → DispatchClass
  | .remark _ | .remarkWithEvent _ => .normal
  | _ => .operational

def info (unit : StoreWeight) (call : SystemCall) : DispatchInfo :=
  ⟨call.weight unit, call.kind, .yes⟩

end SystemCall

inductive UpgradeError where
  | nothingAuthorized
  | unauthorized
deriving DecidableEq

namespace Rules

variable {Account Number : Type} [DecidableEq Account] [Word Number]
variable (rules : Rules Account Number)

def upgradeError : UpgradeError → DispatchError
  | .nothingAuthorized => .ofModule (.ofNumber rules.parts.system 0 "NothingAuthorized")
  | .unauthorized => .ofModule (.ofNumber rules.parts.system 1 "Unauthorized")

/-- The hash of the code, if it is the one that is authorized. -/
def authorizedHash (code : Bytes) (store : Store) : Except DispatchError Hash :=
  match Item.authorizedUpgrade.get store with
  | none => .error (rules.upgradeError .nothingAuthorized)
  | some expected =>
      let actual := blake256 code
      if actual = expected then .ok actual else .error (rules.upgradeError .unauthorized)

/-- What a call on the chain does, without a layer of its own. -/
def runSystemCall (origin : Origin Account) : SystemCall → Attempt DispatchError PostInfo
  | .remark _ => do
      let _ ← origin.requireSignedOrRoot
      return .unchanged
  | .setCode code => do
      origin.requireRoot
      rules.setCode code
      return .unchanged
  | .setStorage items => do
      origin.requireRoot
      Action.change fun store => items.foldl (fun store item => store.put item.1 item.2) store
      return .unchanged
  | .killStorage keys => do
      origin.requireRoot
      Action.change fun store => keys.foldl Store.erase store
      return .unchanged
  | .killUnder head subkeys => do
      origin.requireRoot
      Action.change fun store => (store.eraseUnder head (some subkeys.toNat)).2
      return .unchanged
  | .remarkWithEvent text => do
      let who ← origin.requireSigned
      rules.deposit (.system (.remarked who (blake256 text)))
      return .unchanged
  | .authorizeUpgrade hash => do
      origin.requireRoot
      Action.change (Item.authorizedUpgrade.put hash)
      rules.deposit (.system (.upgradeAuthorized hash))
      return .unchanged
  | .applyUpgrade code => do
      let _ ← ExceptT.mk (Action.look (rules.authorizedHash code))
      Action.change Item.authorizedUpgrade.erase
      rules.setCode code
      return ⟨none, .no⟩

def dispatchSystem (call : SystemCall) (origin : Origin Account) : Action DispatchOutcome :=
  Call.layered (rules.runSystemCall origin call)

/-! ### Without a signer -/

/-- Anyone may bring the code that has been authorized. -/
def validateSystemUnsigned (call : SystemCall) (store : Store) : Validity :=
  match call with
  | .applyUpgrade code =>
      match rules.authorizedHash code store with
      | .ok hash =>
          .ok { ValidTransaction.neutral with priority := 100, provides := [hash.bytes] }
      | .error _ => .error (.invalid .call)
  | _ => .error (.unknown .noUnsignedValidator)

/-- Before its dispatch, a call that nothing is known of is left to its own check of the
origin. -/
def admitSystemUnsigned (call : SystemCall) (store : Store) : Except Rejection Unit :=
  match call with
  | .applyUpgrade code =>
      match rules.authorizedHash code store with
      | .ok _ => .ok ()
      | .error _ => .error (.invalid .call)
  | _ => .ok ()

end Rules

end StateTransition
