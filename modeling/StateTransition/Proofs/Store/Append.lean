import StateTransition.Proofs.Codec.Sequence
import StateTransition.Proofs.Store.Slot

set_option autoImplicit false

/-! Lists that grow at their end without being read. Counting up the length in front of a list and
writing one more item behind it is as good as reading the list, adding the item and writing all of
it, however many bytes the length takes. -/

namespace StateTransition

variable {α β : Type}

private theorem Codec.decodeLength_list {values : List α} (fits : values.length < lengthBound)
    (item : Codec α) :
    decodeLength ((list item).encode values) = .ok (values.length, encodeMany item values) :=
  decodeLength_encodeCompact fits _

/-! ### Below the slots -/

namespace Store

variable {store : Store} {item : Codec α} {key : Bytes} {value : α} {values : List α}

private theorem append_of_encoded (stored : store.get? key = some ((Codec.list item).encode values))
    (fits : values.length + 1 < Codec.lengthBound) :
    store.append item key value = store.write (.list item) key (values ++ [value]) := by
  have counted := Codec.decodeLength_list (Nat.lt_of_succ_lt fits) item
  unfold append write
  rw [stored, Option.getD_some, counted, Codec.encode_list_concat]
  exact if_pos fits

/-- What does not begin with a length is no list, and a list is begun in its place. -/
theorem append_of_unread {cause : CodecError}
    (unread : Codec.decodeLength ((store.get? key).getD []) = .error cause) :
    store.append item key value = store.write (.list item) key [value] := by
  have single : (Codec.list item).encode [value] = Codec.encodeCompact 1 ++ item.encode value :=
    Codec.encode_list_concat item [] value
  unfold append write
  rw [unread, single]

private theorem sequenceLength?_of_encoded
    (stored : store.get? key = some ((Codec.list item).encode values))
    (fits : values.length < Codec.lengthBound) :
    store.sequenceLength? key = some values.length := by
  unfold sequenceLength?
  rw [stored, Option.map_some, Codec.decodeLength_list fits item]

private theorem read?_of_encoded {valid : α → Prop} (reads : item.ReadsOff valid)
    (stored : store.get? key = some ((Codec.list item).encode values))
    (fits : values.length < Codec.lengthBound) (areValid : ∀ value ∈ values, valid value) :
    store.read? (.list item) key = some values := by
  have decoded := Codec.list_readsOff reads values [] ⟨fits, areValid⟩
  rw [List.append_nil] at decoded
  rw [read?, stored, Option.bind_some, Codec.decodeFront?, decoded]

private theorem read?_of_unread {cause : CodecError}
    (unread : Codec.decodeLength ((store.get? key).getD []) = .error cause) :
    store.read? (.list item) key = none := by
  cases stored : store.get? key with
  | none =>
      rw [read?, stored]
      rfl
  | some bytes =>
      rw [stored, Option.getD_some] at unread
      rw [read?, stored, Option.bind_some, Codec.decodeFront?, Codec.list]
      dsimp only
      rw [unread]

end Store

/-! ### Slots -/

namespace Slot

variable {slot : Slot (List α) β} {item : Codec α} {value : α}

theorem append_congr {left right : Store} (same : left.get? slot.key = right.get? slot.key) :
    (slot.append item value left).get? slot.key =
      (slot.append item value right).get? slot.key := by
  unfold append Store.append
  rw [same]
  cases Codec.decodeLength ((right.get? slot.key).getD []) with
  | error cause => rw [Store.get?_put, Store.get?_put, if_pos rfl, if_pos rfl]
  | ok parts =>
      dsimp only
      split
      · rw [Store.get?_put, Store.get?_put, if_pos rfl, if_pos rfl]
      · exact same

def Lists (slot : Slot (List α) β) (item : Codec α) (values : List α) (store : Store) : Prop :=
  (store.get? slot.key).getD ((Codec.list item).encode []) = (Codec.list item).encode values

theorem append_lists {values : List α} {store : Store} (lists : slot.Lists item values store)
    (fits : values.length + 1 < Codec.lengthBound) :
    slot.Lists item (values ++ [value]) (slot.append item value store) := by
  have written : slot.append item value store =
      store.write (.list item) slot.key (values ++ [value]) := by
    unfold Lists at lists
    cases stored : store.get? slot.key with
    | some bytes =>
        rw [stored, Option.getD_some] at lists
        exact Store.append_of_encoded (stored.trans (congrArg some lists)) fits
    | none =>
        -- A list that is missing is read as no length at all, and is begun anew.
        rw [stored, Option.getD_none] at lists
        have empty : Codec.decodeLength ((Codec.list item).encode []) = .ok (0, []) :=
          Codec.decodeLength_encodeCompact (Nat.zero_lt_of_lt fits) []
        rw [lists, Codec.decodeLength_list (Nat.lt_of_succ_lt fits) item] at empty
        injection empty with same
        injection same with count _
        rw [List.eq_nil_of_length_eq_zero count]
        have unread : Codec.decodeLength ((store.get? slot.key).getD []) = .error .malformed := by
          rw [stored]
          rfl
        exact Store.append_of_unread unread
  rw [Lists, written, Store.write, Store.get?_put, if_pos rfl, Option.getD_some]

/-- Reads the list of a slot, adds a value at its end, and writes it again. What cannot be read counts
as the empty list. -/
def push (slot : Slot (List α) β) (value : α) (store : Store) : Store :=
  slot.put ((slot.stored? store).getD [] ++ [value]) store

/-- A slot holds the form of a list, which is read back and tells how long the list is. -/
structure HoldsList (slot : Slot (List α) β) (values : List α) (store : Store) : Prop where
  encoded : store.get? slot.key = some (slot.codec.encode values)
  read : slot.stored? store = some values
  length : slot.length? store = some values.length

variable {valid : α → Prop} {values : List α} {store : Store}

private theorem holdsList_of_encoded (lists : slot.codec = .list item) (reads : item.ReadsOff valid)
    (stored : store.get? slot.key = some ((Codec.list item).encode values))
    (fits : values.length < Codec.lengthBound) (areValid : ∀ value ∈ values, valid value) :
    slot.HoldsList values store where
  encoded := by rw [lists, stored]
  read := by
    rw [stored?, lists]
    exact Store.read?_of_encoded reads stored fits areValid
  length := Store.sequenceLength?_of_encoded stored fits

private theorem holdsList_put (lists : slot.codec = .list item) (reads : item.ReadsOff valid)
    (fits : values.length < Codec.lengthBound) (areValid : ∀ value ∈ values, valid value) :
    slot.HoldsList values (slot.put values store) := by
  refine holdsList_of_encoded lists reads ?_ fits areValid
  rw [put, Store.write, Store.get?_put, if_pos rfl, lists]

/-- To add an item to a list at its end without reading the list is the same as to read it, to add the
item and to write the list again, for every length that goes on fitting into 32 bits. Where nothing
is stored, or nothing that begins with a length, the list has the item alone. In both cases the new
list is read back, and its length is. -/
theorem append_eq_push (lists : slot.codec = .list item) (reads : item.ReadsOff valid)
    (isValid : valid value) (store : Store) :
    (∀ values : List α, values.length < 4294967295 → (∀ other ∈ values, valid other) →
      store.get? slot.key = some (slot.codec.encode values) →
      slot.append item value store = slot.push value store ∧
        slot.HoldsList (values ++ [value]) (slot.append item value store)) ∧
    ((∀ bytes, store.get? slot.key = some bytes →
        ∃ cause, Codec.decodeLength bytes = .error cause) →
      slot.append item value store = slot.push value store ∧
        slot.HoldsList [value] (slot.append item value store)) := by
  constructor
  · intro values short areValid stored
    rw [lists] at stored
    have room : values.length + 1 < Codec.lengthBound := Nat.succ_lt_succ short
    have found : slot.stored? store = some values :=
      (holdsList_of_encoded lists reads stored (Nat.lt_of_succ_lt room) areValid).read
    have pushed : slot.push value store = slot.put (values ++ [value]) store := by
      rw [push, found, Option.getD_some]
    have written : slot.append item value store = slot.put (values ++ [value]) store := by
      rw [put, lists]
      exact Store.append_of_encoded stored room
    rw [written, pushed]
    refine ⟨rfl, holdsList_put lists reads ?_ ?_⟩
    · rw [List.length_append]
      exact room
    · exact List.forall_mem_append.mpr ⟨areValid, List.forall_mem_singleton.mpr isValid⟩
  · intro unread
    have failed : ∃ cause, Codec.decodeLength ((store.get? slot.key).getD []) = .error cause := by
      cases stored : store.get? slot.key with
      | none => exact ⟨.malformed, rfl⟩
      | some bytes => exact unread bytes stored
    obtain ⟨cause, failed⟩ := failed
    have missing : slot.stored? store = none := by
      rw [stored?, lists]
      exact Store.read?_of_unread failed
    have pushed : slot.push value store = slot.put [value] store := by
      rw [push, missing]
      rfl
    have written : slot.append item value store = slot.put [value] store := by
      rw [put, lists]
      exact Store.append_of_unread failed
    rw [written, pushed]
    have short : 1 < Codec.lengthBound := by decide
    exact ⟨rfl, holdsList_put lists reads short (List.forall_mem_singleton.mpr isValid)⟩

/-- The item with which the length begins to take five bytes instead of four; and an item in place of a
byte that begins a number of 67 bytes. -/
theorem append_eq_push_widening :
    ∃ (slot : Slot (List UInt32) (Option (List UInt32))) (store garbled : Store)
      (values : List UInt32),
      values.length = 1073741823 ∧
      (Codec.encodeCompact values.length).length = 4 ∧
      (Codec.encodeCompact (values.length + 1)).length = 5 ∧
      store.get? slot.key = some (slot.codec.encode values) ∧
      slot.append .word 7 store = slot.push 7 store ∧
      slot.HoldsList (values ++ [7]) (slot.append .word 7 store) ∧
      garbled.get? slot.key = some [255] ∧
      slot.HoldsList [7] (slot.append .word 7 garbled) := by
  let slot : Slot (List UInt32) (Option (List UInt32)) := .optional [1] (.list .word)
  let values : List UInt32 := List.replicate 1073741823 5
  let store := slot.put values .empty
  let garbled := Store.empty.put [1] [255]
  have reads : (Codec.word : Codec UInt32).ReadsOff fun _ => True :=
    Codec.word_faithful.decode_encode
  have counted : values.length = 1073741823 := List.length_replicate
  have short : values.length < 4294967295 := by
    rw [counted]
    decide
  have stored : store.get? slot.key = some (slot.codec.encode values) := by
    change (Store.empty.put slot.key (slot.codec.encode values)).get? slot.key = _
    rw [Store.get?_put, if_pos rfl]
  have garbage : garbled.get? slot.key = some [255] := by decide
  obtain ⟨appends, _⟩ := @append_eq_push UInt32 _ slot .word 7 _ rfl reads trivial store
  obtain ⟨pushed, holds⟩ := appends values short (fun _ _ => trivial) stored
  obtain ⟨_, begins⟩ := @append_eq_push UInt32 _ slot .word 7 _ rfl reads trivial garbled
  obtain ⟨_, single⟩ := begins fun bytes found => by
    rw [garbage] at found
    cases found
    exact ⟨.malformed, rfl⟩
  refine ⟨slot, store, garbled, values, counted, ?_, ?_, stored, pushed, holds, garbage, single⟩
  · rw [counted]
    decide +kernel
  · rw [counted]
    decide +kernel

end Slot

end StateTransition
