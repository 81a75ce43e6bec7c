import StateTransition.Codec.Compact
import StateTransition.Hash.Blake2
import StateTransition.Store.KeyMap

set_option autoImplicit false

/-! The key-value store of a chain: what has been settled, and over it layers of changes.
A layer is opened, filled, and then kept or thrown away as a whole; reads see the
innermost change of a key. -/

namespace StateTransition

/-- Changes that have not been settled: a key without a value is erased. -/
abbrev Changes := KeyMap (Option Bytes)

structure Store where
  settled : KeyMap Bytes
  changes : Changes
  /-- The open layers, the innermost first. -/
  layers : List Changes

namespace Store

def ofMap (settled : KeyMap Bytes) : Store where
  settled
  changes := .empty
  layers := []

def empty : Store := ofMap .empty

instance : Inhabited Store where
  default := empty

/-! ### The visible state -/

def visible (store : Store) : KeyMap Bytes :=
  store.layers.foldr (fun layer below => below.change layer) (store.settled.change store.changes)

def findChange? (key : Bytes) : List Changes → Option (Option Bytes)
  | [] => none
  | layer :: below =>
      match layer.find? key with
      | some change => some change
      | none => findChange? key below

def get? (store : Store) (key : Bytes) : Option Bytes :=
  match findChange? key (store.layers ++ [store.changes]) with
  | some change => change
  | none => store.settled.find? key

def contains (store : Store) (key : Bytes) : Bool := (store.get? key).isSome

def next? (store : Store) (key : Bytes) : Option Bytes :=
  store.visible.keys.find? key.before

/-- The form of the whole state that is hashed: its pairs in the order of their keys. -/
def pairs : Codec (List (Bytes × Bytes)) := .list (.pair .bytes .bytes)

def root (store : Store) : Hash := blake256 (pairs.encode store.visible.entries)

/-! ### Changes -/

def record (store : Store) (key : Bytes) (change : Option Bytes) : Store :=
  match store.layers with
  | [] => { store with changes := store.changes.insert key change }
  | layer :: below => { store with layers := layer.insert key change :: below }

def put (store : Store) (key value : Bytes) : Store := store.record key (some value)

def erase (store : Store) (key : Bytes) : Store := store.record key none

/-- Erases the first keys that begin with `head`, up to `limit` of them, and counts them. -/
def eraseUnder (store : Store) (head : Bytes) (limit : Option Nat) : Nat × Store :=
  let found := store.visible.keys.filter (·.startsWith head)
  let chosen :=
    match limit with
    | some count => found.take count
    | none => found
  (chosen.length, chosen.foldl erase store)

/-! ### Layers -/

def depth (store : Store) : Nat := store.layers.length

def openLayer (store : Store) : Store := { store with layers := .empty :: store.layers }

def discardLayer? (store : Store) : Option Store :=
  match store.layers with
  | [] => none
  | _ :: below => some { store with layers := below }

/-- Makes the changes of the innermost layer in the one below it. -/
def keepLayer? (store : Store) : Option Store :=
  match store.layers with
  | [] => none
  | [layer] => some { store with changes := store.changes.override layer, layers := [] }
  | layer :: parent :: below =>
      some { store with layers := parent.override layer :: below }

/-- Settles the changes that are in no layer, unless a layer is open. -/
def settle? (store : Store) : Option Store :=
  match store.layers with
  | [] => some (ofMap (store.settled.change store.changes))
  | _ :: _ => none

def putSettled (store : Store) (key value : Bytes) : Store :=
  { store with settled := store.settled.insert key value }

/-- A store in which the visible state is settled and no layer is open. -/
def flatten (store : Store) : Store := ofMap store.visible

/-! ### Keys with a common beginning -/

theorem next?_after {store : Store} {key next : Bytes} (found : store.next? key = some next) :
    next ∈ store.visible.keys ∧ key.before next = true :=
  ⟨List.mem_of_find?_eq_some found, List.find?_some found⟩

def keysAfter (store : Store) (key : Bytes) : List Bytes :=
  store.visible.keys.filter key.before

theorem keysAfter_next_lt {store : Store} {key next : Bytes}
    (found : store.next? key = some next) :
    (store.keysAfter next).length < (store.keysAfter key).length := by
  obtain ⟨present, later⟩ := next?_after found
  have sub : store.keysAfter next = (store.keysAfter key).filter next.before := by
    simp only [keysAfter, List.filter_filter]
    apply List.filter_congr
    intro other _
    cases beyond : next.before other with
    | false => rfl
    | true => simp [Bytes.before_trans later beyond]
  rw [sub]
  refine List.length_filter_lt_length_iff_exists.mpr ⟨next, ?_, by simp⟩
  exact List.mem_filter.mpr ⟨present, later⟩

/-- Walks from key to key for as long as they begin with `head`. -/
def walk (store : Store) (head key : Bytes) : List Bytes :=
  match found : store.next? key with
  | none => []
  | some next =>
      have := keysAfter_next_lt found
      if next.startsWith head then next :: walk store head next else []
termination_by (store.keysAfter key).length

def keysUnder (store : Store) (head : Bytes) : List Bytes :=
  if store.contains head then head :: store.walk head head else store.walk head head

/-! ### Typed access -/

variable {α : Type}

/-- The value a key holds the form of; what follows the form is ignored. -/
def read? (store : Store) (codec : Codec α) (key : Bytes) : Option α :=
  (store.get? key).bind codec.decodeFront?

def write (store : Store) (codec : Codec α) (key : Bytes) (value : α) : Store :=
  store.put key (codec.encode value)

/-- Writes the value, or erases the key where there is none. -/
def writeOption (store : Store) (codec : Codec α) (key : Bytes) : Option α → Store
  | some value => store.write codec key value
  | none => store.erase key

/-- Reads a value and erases it. What cannot be read stays. -/
def take (store : Store) (codec : Codec α) (key : Bytes) : Option α × Store :=
  match store.read? codec key with
  | some value => (some value, store.erase key)
  | none => (none, store)

/-- Adds an item to the sequence at a key without reading its items. What does not begin
with a length is replaced; a sequence of the greatest length stays as it is. -/
def append (store : Store) (item : Codec α) (key : Bytes) (value : α) : Store :=
  match Codec.decodeLength ((store.get? key).getD []) with
  | .ok (count, items) =>
      if count + 1 < Codec.lengthBound then
        store.put key (Codec.encodeCompact (count + 1) ++ items ++ item.encode value)
      else store
  | .error _ => store.put key (Codec.encodeCompact 1 ++ item.encode value)

def sequenceLength? (store : Store) (key : Bytes) : Option Nat :=
  match (store.get? key).map Codec.decodeLength with
  | some (.ok (count, _)) => some count
  | _ => none

end Store

end StateTransition
