import StateTransition.Store.Basic
import StateTransition.Store.Key

set_option autoImplicit false

/-! Typed views of the store. A slot is one key; a table has a key for every row. What
a read gives where nothing is stored belongs to the view. -/

namespace StateTransition

variable {α β κ ε ρ : Type}

/-- One key. `ofStored` says what a read shows, `toStored` what a write stores: nothing
means that the key is erased. -/
structure Slot (α β : Type) where
  key : Bytes
  codec : Codec α
  ofStored : Option α → β
  toStored : β → Option α

namespace Slot

def optional (key : Bytes) (codec : Codec α) : Slot α (Option α) where
  key
  codec
  ofStored := id
  toStored := id

def valued (key : Bytes) (codec : Codec α) (missing : α) : Slot α α where
  key
  codec
  ofStored := (·.getD missing)
  toStored := some

variable (slot : Slot α β)

def exists? (store : Store) : Bool := store.contains slot.key

def stored? (store : Store) : Option α := store.read? slot.codec slot.key

def get (store : Store) : β := slot.ofStored (slot.stored? store)

def put (value : α) (store : Store) : Store := store.write slot.codec slot.key value

def set (value : β) (store : Store) : Store :=
  store.writeOption slot.codec slot.key (slot.toStored value)

def erase (store : Store) : Store := store.erase slot.key

def take (store : Store) : β × Store :=
  let (value, rest) := store.take slot.codec slot.key
  (slot.ofStored value, rest)

def modify (change : β → ρ × β) (store : Store) : ρ × Store :=
  let (answer, value) := change (slot.get store)
  (answer, slot.set value store)

def tryModify (change : β → Except ε (ρ × β)) (store : Store) : Except ε ρ × Store :=
  match change (slot.get store) with
  | .ok (answer, value) => (.ok answer, slot.set value store)
  | .error cause => (.error cause, store)

/-- Replaces the stored value, seen as absent or present whatever a read shows. -/
def modifyStored (change : Option α → ρ × Option α) (store : Store) : ρ × Store :=
  let (answer, value) := change (slot.stored? store)
  (answer, store.writeOption slot.codec slot.key value)

def tryModifyStored (change : Option α → Except ε (ρ × Option α)) (store : Store) :
    Except ε ρ × Store :=
  match change (slot.stored? store) with
  | .ok (answer, value) => (.ok answer, store.writeOption slot.codec slot.key value)
  | .error cause => (.error cause, store)

end Slot

def Slot.append (slot : Slot (List α) β) (item : Codec α) (value : α) (store : Store) : Store :=
  store.append item slot.key value

def Slot.length? (slot : Slot (List α) β) (store : Store) : Option Nat :=
  store.sequenceLength? slot.key

/-- Rows under one area, each at the hash of its key. -/
structure Table (κ α β : Type) where
  area : Bytes
  hash : KeyHash
  keyCodec : Codec κ
  codec : Codec α
  ofStored : Option α → β
  toStored : β → Option α

namespace Table

def optional (area : Bytes) (hash : KeyHash) (keyCodec : Codec κ) (codec : Codec α) :
    Table κ α (Option α) where
  area
  hash
  keyCodec
  codec
  ofStored := id
  toStored := id

def valued (area : Bytes) (hash : KeyHash) (keyCodec : Codec κ) (codec : Codec α)
    (missing : α) : Table κ α α where
  area
  hash
  keyCodec
  codec
  ofStored := (·.getD missing)
  toStored := some

variable (table : Table κ α β)

def row (key : κ) : Slot α β where
  key := table.area ++ table.hash.apply (table.keyCodec.encode key)
  codec := table.codec
  ofStored := table.ofStored
  toStored := table.toStored

def eraseAll (limit : Option Nat) (store : Store) : Nat × Store :=
  store.eraseUnder table.area limit

/-- The row at a key of the store, if its key and its value can be read. -/
def entryAt? (store : Store) (key : Bytes) : Option (κ × α) :=
  match ((table.hash.reverse? (key.drop table.area.length)).bind table.keyCodec.decodeFront?),
      store.read? table.codec key with
  | some rowKey, some value => some (rowKey, value)
  | _, _ => none

/-- The rows in the order of the store; those that cannot be read are left out. -/
def entries (store : Store) : List (κ × α) :=
  (store.keysUnder table.area).filterMap (table.entryAt? store)

def keys (store : Store) : List κ := (table.entries store).map (·.1)

end Table

end StateTransition
