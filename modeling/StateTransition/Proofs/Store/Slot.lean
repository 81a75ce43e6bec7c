import StateTransition.Proofs.Store.View
import StateTransition.Store.Item

set_option autoImplicit false

/-! Laws of slots: what they show after they were written, and that every access to a slot looks
at its key alone and changes nothing else. -/

namespace StateTransition

variable {α β ε ρ : Type}

namespace Slot

variable (slot : Slot α β)

/-! ### What a slot shows -/

theorem stored?_put {value : α}
    (readsBack : slot.codec.decodeFront? (slot.codec.encode value) = some value) (store : Store) :
    slot.stored? (slot.put value store) = some value := by
  rw [stored?, Store.read?, put, Store.write, Store.get?_put, if_pos rfl]
  exact readsBack

theorem stored?_erase (store : Store) : slot.stored? (slot.erase store) = none := by
  rw [stored?, Store.read?, erase, Store.get?_erase, if_pos rfl]
  rfl

theorem exists?_congr {left right : Store} (same : left.get? slot.key = right.get? slot.key) :
    slot.exists? left = slot.exists? right := by
  rw [exists?, exists?, Store.contains, Store.contains, same]

theorem exists?_erase (store : Store) : slot.exists? (slot.erase store) = false := by
  rw [exists?, Store.contains, erase, Store.get?_erase, if_pos rfl]
  rfl

theorem get?_of_absent {store : Store} (absent : slot.exists? store = false) :
    store.get? slot.key = none :=
  Option.isNone_iff_eq_none.mp (Option.isSome_eq_false_iff.mp absent)

theorem exists?_of_none {store : Store} (none : store.get? slot.key = none) :
    slot.exists? store = false := by
  rw [exists?, Store.contains, none]
  rfl

theorem stored?_of_none {store : Store} (none : store.get? slot.key = none) :
    slot.stored? store = .none := by
  rw [stored?, Store.read?, none]
  rfl

theorem get_of_none {store : Store} (none : store.get? slot.key = none) :
    slot.get store = slot.ofStored .none :=
  congrArg slot.ofStored (slot.stored?_of_none none)

theorem stored?_of_absent {store : Store} (absent : slot.exists? store = false) :
    slot.stored? store = none :=
  slot.stored?_of_none (slot.get?_of_absent absent)

theorem get?_erase_none {key : Bytes} {store : Store}
    (gone : key = slot.key ∨ store.get? key = none) : (slot.erase store).get? key = none := by
  rw [erase, Store.get?_erase]
  rcases gone with rfl | absent
  · exact if_pos rfl
  · rw [absent]
    exact ite_self none

theorem stored?_congr {left right : Store} (same : left.get? slot.key = right.get? slot.key) :
    slot.stored? left = slot.stored? right := by
  rw [stored?, stored?, Store.read?, Store.read?, same]

theorem get_congr {left right : Store} (same : left.get? slot.key = right.get? slot.key) :
    slot.get left = slot.get right := by
  rw [get, get, slot.stored?_congr same]

theorem get_after_put {keys : Bytes → Prop} {step : Store → Store} (isLocal : Store.Local keys step)
    (outside : ¬keys slot.key) {value : α}
    (readsBack : slot.codec.decodeFront? (slot.codec.encode value) = some value) (store : Store) :
    slot.get (step (slot.put value store)) = slot.ofStored (some value) := by
  rw [slot.get_congr (isLocal.spares _ _ outside), get, slot.stored?_put readsBack]

theorem take_of_stored {store : Store} {value : α} (found : slot.stored? store = some value) :
    slot.take store = (slot.ofStored (some value), slot.erase store) := by
  rw [stored?] at found
  simp only [take, Store.take, found, erase]

theorem take_of_none {store : Store} (missing : slot.stored? store = none) :
    slot.take store = (slot.ofStored none, store) := by
  rw [stored?] at missing
  simp only [take, Store.take, missing]

theorem seen_stored? : Store.Seen slot.stored? := by
  intro left right same
  exact slot.stored?_congr (Store.seen_get? slot.key left right same)

theorem seen_get : Store.Seen slot.get := by
  intro left right same
  exact slot.get_congr (Store.seen_get? slot.key left right same)

theorem seen_exists? : Store.Seen slot.exists? := by
  intro left right same
  have found := Store.seen_get? slot.key left right same
  simp only at found
  rw [exists?, exists?, Store.contains, Store.contains, found]

/-! ### What accesses change -/

variable {slot}
variable {keys : Bytes → Prop}

theorem put_local (inside : keys slot.key) (value : α) : Store.Local keys (slot.put value) :=
  Store.Local.put inside (slot.codec.encode value)

theorem erase_local (inside : keys slot.key) : Store.Local keys slot.erase :=
  Store.Local.erase inside

theorem writeOption_local (inside : keys slot.key) (value : Option α) :
    Store.Local keys fun store => store.writeOption slot.codec slot.key value := by
  cases value with
  | none => exact slot.erase_local inside
  | some value => exact slot.put_local inside value

theorem set_local (inside : keys slot.key) (value : β) : Store.Local keys (slot.set value) :=
  slot.writeOption_local inside (slot.toStored value)

theorem take_local (inside : keys slot.key) :
    Store.Local keys fun store => (slot.take store).2 := by
  have same : (fun store => (slot.take store).2) = fun store =>
      if (slot.stored? store).isSome then slot.erase store else store := by
    funext store
    cases found : slot.stored? store with
    | none =>
        rw [slot.take_of_none found]
        rfl
    | some value =>
        rw [slot.take_of_stored found]
        rfl
  rw [same]
  exact Store.Local.bind (fun stored store => if stored.isSome then slot.erase store else store)
    slot.seen_stored? fun _ => (slot.erase_local inside).ite Store.Local.id

theorem seen_take : Store.Seen fun store => (slot.take store).1 := by
  intro left right same
  have stored := slot.seen_stored? left right same
  simp only [take, Store.take, stored?] at stored ⊢
  rw [stored]
  cases right.read? slot.codec slot.key <;> rfl

theorem take_acts (inside : keys slot.key) : Store.Acts keys slot.take where
  seen := slot.seen_take
  isLocal := slot.take_local inside

theorem modify_local (inside : keys slot.key) (change : β → ρ × β) :
    Store.Local keys fun store => (slot.modify change store).2 :=
  Store.Local.bind (fun value => slot.set (change value).2) slot.seen_get
    fun value => slot.set_local inside (change value).2

theorem seen_modify (change : β → ρ × β) : Store.Seen fun store => (slot.modify change store).1 :=
  slot.seen_get.map fun value => (change value).1

theorem tryModifyStored_local (inside : keys slot.key)
    (change : Option α → Except ε (ρ × Option α)) :
    Store.Local keys fun store => (slot.tryModifyStored change store).2 := by
  refine Store.Local.of_view (slot.seen_stored?.map change) fun changed => ?_
  cases changed with
  | error cause => exact ⟨_, Store.Local.id, fun store found => by rw [tryModifyStored, found]⟩
  | ok parts =>
      exact ⟨_, slot.writeOption_local inside parts.2, fun store found => by
        rw [tryModifyStored, found]⟩

theorem seen_tryModifyStored (change : Option α → Except ε (ρ × Option α)) :
    Store.Seen fun store => (slot.tryModifyStored change store).1 := by
  intro left right same
  have shown := slot.seen_stored? left right same
  simp only [tryModifyStored, shown]
  cases change (slot.stored? right) <;> rfl

end Slot

end StateTransition
