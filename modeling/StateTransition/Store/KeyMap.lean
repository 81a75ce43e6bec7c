import StateTransition.Bytes

set_option autoImplicit false

/-! Finite maps from byte strings, kept in the order of their keys. -/

namespace StateTransition

def Ascending {α : Type} (entries : List (Bytes × α)) : Prop :=
  entries.Pairwise fun left right => Bytes.before left.1 right.1 = true

structure KeyMap (α : Type) where
  entries : List (Bytes × α)
  ascending : Ascending entries

namespace KeyMap

variable {α : Type}

def empty : KeyMap α where
  entries := []
  ascending := .nil

instance : Inhabited (KeyMap α) where
  default := empty

/-! ### Entries -/

def lookUp? (key : Bytes) : List (Bytes × α) → Option α
  | [] => none
  | (other, value) :: rest => if other = key then some value else lookUp? key rest

/-- Puts an entry in its place, instead of the one that has the key. -/
def insertEntry (key : Bytes) (value : α) : List (Bytes × α) → List (Bytes × α)
  | [] => [(key, value)]
  | (other, current) :: rest =>
      if key = other then (key, value) :: rest
      else if key.before other then (key, value) :: (other, current) :: rest
      else (other, current) :: insertEntry key value rest

theorem mem_insertEntry {key : Bytes} {value : α} {entries : List (Bytes × α)}
    {entry : Bytes × α} (member : entry ∈ insertEntry key value entries) :
    entry = (key, value) ∨ entry ∈ entries := by
  induction entries with
  | nil => simpa [insertEntry] using member
  | cons first rest ih =>
    simp only [insertEntry] at member
    grind

theorem insertEntry_ascending (key : Bytes) (value : α) {entries : List (Bytes × α)}
    (ordered : Ascending entries) : Ascending (insertEntry key value entries) := by
  induction entries with
  | nil => simp [insertEntry, Ascending]
  | cons first rest ih =>
    obtain ⟨other, current⟩ := first
    obtain ⟨least, restOrdered⟩ := List.pairwise_cons.mp ordered
    simp only [insertEntry]
    split
    · rename_i same
      subst same
      exact List.pairwise_cons.mpr ⟨least, restOrdered⟩
    · rename_i different
      split
      · rename_i earlier
        refine List.pairwise_cons.mpr ⟨fun entry member => ?_, ordered⟩
        rcases List.mem_cons.mp member with rfl | inRest
        · exact earlier
        · exact Bytes.before_trans earlier (least entry inRest)
      · rename_i notEarlier
        refine List.pairwise_cons.mpr ⟨fun entry member => ?_, ih restOrdered⟩
        rcases mem_insertEntry member with rfl | inRest
        · cases order : Bytes.before other key with
          | true => rfl
          | false =>
            exact absurd (Bytes.eq_of_not_before (Bool.eq_false_iff.mpr notEarlier) order)
              different
        · exact least entry inRest

/-! ### Maps -/

def find? (map : KeyMap α) (key : Bytes) : Option α := lookUp? key map.entries

def insert (map : KeyMap α) (key : Bytes) (value : α) : KeyMap α where
  entries := insertEntry key value map.entries
  ascending := insertEntry_ascending key value map.ascending

def erase (map : KeyMap α) (key : Bytes) : KeyMap α where
  entries := map.entries.filter fun entry => entry.1 ≠ key
  ascending := map.ascending.filter _

def keys (map : KeyMap α) : List Bytes := map.entries.map (·.1)

/-- The map of a list of entries; of two with one key the later counts. -/
def ofList (entries : List (Bytes × α)) : KeyMap α :=
  entries.foldl (fun map entry => map.insert entry.1 entry.2) empty

/-- Every entry of `changes`, and those of `map` whose key `changes` does not have. -/
def override (map changes : KeyMap α) : KeyMap α :=
  changes.entries.foldl (fun map entry => map.insert entry.1 entry.2) map

def change (map : KeyMap α) (changes : KeyMap (Option α)) : KeyMap α :=
  changes.entries.foldl
    (fun map entry =>
      match entry.2 with
      | some value => map.insert entry.1 value
      | none => map.erase entry.1)
    map

end KeyMap

end StateTransition
