import Mathlib.Data.List.Nodup
import Mathlib.Logic.Function.Basic
import StateTransition.Proofs.Codec
import StateTransition.Proofs.Store.Name
import StateTransition.Proofs.Store.Slot
import StateTransition.Proofs.Store.Under

set_option autoImplicit false

/-! All rows of a table at once. What is written to a row changes that row alone, what begins like a
row but is none is not there, and each row is listed once. -/

namespace StateTransition

theorem Store.bare_of_keys {store : Store} {head : Bytes}
    (foreign : store.visible.keys.all (fun key => !key.startsWith head) = true) (key : Bytes)
    (begins : key.startsWith head = true) : store.get? key = none := by
  cases found : store.get? key with
  | none => rfl
  | some value =>
      rw [Store.get?_eq_find?] at found
      have member : key ∈ store.visible.keys :=
        (KeyMap.mem_keys_iff _ _).mpr (Option.isSome_iff_exists.mpr ⟨value, found⟩)
      have other := List.all_eq_true.mp foreign key member
      rw [begins] at other
      cases other

namespace Table

variable {κ α β : Type} {table : Table κ α β} {hash : KeepingHash}

theorem row_injective (keeps : table.hash = .keeping hash)
    (reads : table.keyCodec.ReadsBack) {left right : κ}
    (same : (table.row left).key = (table.row right).key) : left = right := by
  have hashed : table.hash.apply (table.keyCodec.encode left) =
      table.hash.apply (table.keyCodec.encode right) := List.append_cancel_left same
  rw [keeps] at hashed
  exact reads.encode_injective (KeepingHash.apply_injective hash hashed)

/-- The table has these rows, and nothing else is stored in its area. -/
structure Holds (table : Table κ α β) (rows : κ → Option α) (store : Store) : Prop where
  present : ∀ key, store.get? (table.row key).key = (rows key).map table.codec.encode
  only : ∀ place, place.startsWith table.area = true → store.get? place ≠ none →
    ∃ key, place = (table.row key).key

namespace Holds

variable {rows : κ → Option α} {store before after : Store}

theorem congr (holds : table.Holds rows before)
    (same : ∀ place, place.startsWith table.area = true → after.get? place = before.get? place) :
    table.Holds rows after where
  present key := (same _ (Item.row_begins table _)).trans (holds.present key)
  only place begins found := holds.only place begins (same place begins ▸ found)

theorem empty (bare : ∀ place, place.startsWith table.area = true → store.get? place = none) :
    table.Holds (fun _ => none) store where
  present _ := bare _ (Item.row_begins table _)
  only place begins found := absurd (bare place begins) found

theorem bare (holds : table.Holds (fun _ => none) store) (place : Bytes)
    (begins : place.startsWith table.area = true) : store.get? place = none := by
  apply Decidable.byContradiction
  intro found
  obtain ⟨key, rfl⟩ := holds.only place begins found
  exact found (holds.present key)

theorem stored? (holds : table.Holds rows store) {key : κ} {value : α} (held : rows key = some value)
    (readsBack : table.codec.decodeFront? (table.codec.encode value) = some value) :
    (table.row key).stored? store = some value := by
  change (store.get? (table.row key).key).bind table.codec.decodeFront? = _
  rw [holds.present key, held]
  exact readsBack

theorem stored?_eq (holds : table.Holds rows store) (values : table.codec.ReadsBack) (key : κ) :
    (table.row key).stored? store = rows key := by
  cases held : rows key with
  | none =>
      apply Slot.stored?_of_none
      rw [holds.present key, held]
      rfl
  | some value => exact holds.stored? held (values value)

variable [DecidableEq κ] (keeps : table.hash = .keeping hash)
variable (reads : table.keyCodec.ReadsBack)

include keeps reads

theorem put (holds : table.Holds rows store) (key : κ) (value : α) :
    table.Holds (Function.update rows key (some value)) ((table.row key).put value store) where
  present other := by
    rw [Slot.put, Store.write, Store.get?_put]
    by_cases same : other = key
    · rw [same, if_pos rfl, Function.update_self]
      rfl
    · rw [if_neg fun met => same (row_injective keeps reads met), Function.update_of_ne same]
      exact holds.present other
  only place begins found := by
    rw [Slot.put, Store.write, Store.get?_put] at found
    by_cases same : place = (table.row key).key
    · exact ⟨key, same⟩
    · rw [if_neg same] at found
      exact holds.only place begins found

theorem erase (holds : table.Holds rows store) (key : κ) :
    table.Holds (Function.update rows key none) ((table.row key).erase store) where
  present other := by
    rw [Slot.erase, Store.get?_erase]
    by_cases same : other = key
    · rw [same, if_pos rfl, Function.update_self]
      rfl
    · rw [if_neg fun met => same (row_injective keeps reads met), Function.update_of_ne same]
      exact holds.present other
  only place begins found := by
    rw [Slot.erase, Store.get?_erase] at found
    by_cases same : place = (table.row key).key
    · exact absurd (if_pos same) found
    · rw [if_neg same] at found
      exact holds.only place begins found

end Holds

/-! ### The rows that are listed -/

namespace Holds

variable {rows : κ → Option α} {store : Store}

theorem mem_keysUnder (holds : table.Holds rows store) {place : Bytes}
    (member : place ∈ store.keysUnder table.area) :
    ∃ key value, rows key = some value ∧ place = (table.row key).key := by
  rw [Store.keysUnder_eq_filter, List.mem_filter, KeyMap.mem_keys_iff, ← Store.get?_eq_find?]
    at member
  obtain ⟨found, begins⟩ := member
  have stored : store.get? place ≠ none := Option.isSome_iff_ne_none.mp found
  obtain ⟨key, rfl⟩ := holds.only place begins stored
  rw [holds.present key, Option.isSome_map] at found
  obtain ⟨value, held⟩ := Option.isSome_iff_exists.mp found
  exact ⟨key, value, held, rfl⟩

theorem row_mem_keysUnder (holds : table.Holds rows store) {key : κ} {value : α}
    (held : rows key = some value) : (table.row key).key ∈ store.keysUnder table.area := by
  rw [Store.keysUnder_eq_filter, List.mem_filter, KeyMap.mem_keys_iff, ← Store.get?_eq_find?,
    holds.present key, held]
  exact ⟨rfl, Item.row_begins table key⟩

variable (keeps : table.hash = .keeping hash) (keys : table.keyCodec.ReadsBack)
variable (values : table.codec.ReadsBack)

include keeps keys values

theorem entryAt?_row (holds : table.Holds rows store) {key : κ} {value : α}
    (held : rows key = some value) :
    table.entryAt? store (table.row key).key = some (key, value) := by
  have stored : store.get? (table.row key).key = some (table.codec.encode value) := by
    rw [holds.present key, held]
    rfl
  rw [table.entryAt?_of_stored stored, rowOf?, table.reverse?_row keeps, Option.bind_some,
    keys key, values value]

theorem mem_entries_iff (holds : table.Holds rows store) (key : κ) (value : α) :
    (key, value) ∈ table.entries store ↔ rows key = some value := by
  rw [entries, List.mem_filterMap]
  constructor
  · rintro ⟨place, member, found⟩
    obtain ⟨listed, shown, held, rfl⟩ := holds.mem_keysUnder member
    rw [holds.entryAt?_row keeps keys values held] at found
    cases found
    exact held
  · intro held
    exact ⟨_, holds.row_mem_keysUnder held, holds.entryAt?_row keeps keys values held⟩

theorem keysUnder_eq (holds : table.Holds rows store) :
    store.keysUnder table.area = (table.keys store).map fun key => (table.row key).key := by
  have leadsBack : ∀ place ∈ store.keysUnder table.area,
      (table.entryAt? store place).map (fun entry => (table.row entry.1).key) = some place := by
    intro place member
    obtain ⟨key, value, held, rfl⟩ := holds.mem_keysUnder member
    rw [holds.entryAt?_row keeps keys values held]
    rfl
  rw [Table.keys, entries, List.map_map, List.map_filterMap]
  exact ((List.filterMap_congr leadsBack).trans List.filterMap_some).symm

theorem keys_nodup (holds : table.Holds rows store) : (table.keys store).Nodup := by
  have distinct := store.keysUnder_nodup table.area
  rw [holds.keysUnder_eq keeps keys values] at distinct
  exact distinct.of_map _

theorem mem_keys_iff (holds : table.Holds rows store) (key : κ) :
    key ∈ table.keys store ↔ (rows key).isSome = true := by
  rw [Table.keys, List.mem_map, Option.isSome_iff_exists]
  constructor
  · rintro ⟨⟨_, value⟩, member, rfl⟩
    exact ⟨value, (holds.mem_entries_iff keeps keys values _ value).mp member⟩
  · rintro ⟨value, held⟩
    exact ⟨(key, value), (holds.mem_entries_iff keeps keys values key value).mpr held, rfl⟩

end Holds

end Table

end StateTransition
