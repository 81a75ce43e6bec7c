import StateTransition.Proofs.Store.KeyMap
import StateTransition.Store.Basic

set_option autoImplicit false

/-! A store seen from outside: its visible state, and the layers beneath the innermost one.
What runs on a store reads the visible state and writes into the innermost layer only, so two
stores that look alike cannot be told apart, and closing a layer gives back what was there. -/

namespace StateTransition

namespace Store

variable {α β : Type}

/-! ### The visible state -/

theorem get?_eq_find? (store : Store) (key : Bytes) :
    store.get? key = store.visible.find? key := by
  obtain ⟨settled, changes, layers⟩ := store
  simp only [get?, visible]
  induction layers with
  | nil =>
      simp only [List.nil_append, List.foldr_nil, findChange?, KeyMap.find?_change]
      cases changes.find? key <;> rfl
  | cons layer below ih =>
      simp only [List.cons_append, List.foldr_cons, findChange?, KeyMap.find?_change]
      rw [← ih]
      cases layer.find? key <;> rfl

theorem visible_eq_of_get? {left right : Store} (same : ∀ key, left.get? key = right.get? key) :
    left.visible = right.visible := by
  apply KeyMap.ext_find?
  intro key
  rw [← get?_eq_find?, ← get?_eq_find?]
  exact same key

theorem visible_record (store : Store) (key : Bytes) (change : Option Bytes) :
    (store.record key change).visible = store.visible.alter key change := by
  obtain ⟨settled, changes, layers⟩ := store
  apply KeyMap.ext_find?
  intro other
  rw [KeyMap.find?_alter]
  cases layers with
  | nil =>
      simp only [record, visible, List.foldr_nil, KeyMap.find?_change, KeyMap.find?_insert]
      by_cases same : other = key <;> simp [same]
  | cons layer below =>
      simp only [record, visible, List.foldr_cons, KeyMap.find?_change, KeyMap.find?_insert]
      by_cases same : other = key <;> simp [same]

theorem get?_record (store : Store) (key other : Bytes) (change : Option Bytes) :
    (store.record key change).get? other = if other = key then change else store.get? other := by
  rw [get?_eq_find?, visible_record, KeyMap.find?_alter, ← get?_eq_find?]

theorem get?_put (store : Store) (key other value : Bytes) :
    (store.put key value).get? other = if other = key then some value else store.get? other :=
  get?_record store key other (some value)

theorem get?_erase (store : Store) (key other : Bytes) :
    (store.erase key).get? other = if other = key then none else store.get? other :=
  get?_record store key other none

/-! ### Beneath the innermost layer -/

/-- All that a store holds but the changes of its innermost layer. -/
def beneath (store : Store) : KeyMap Bytes × List Changes :=
  (store.settled, (store.layers ++ [store.changes]).tail)

theorem depth_eq_of_beneath {left right : Store} (same : left.beneath = right.beneath) :
    left.depth = right.depth := by
  have lengths := congrArg (fun parts => parts.2.length) same
  simpa [beneath, depth] using lengths

@[simp] theorem beneath_record (store : Store) (key : Bytes) (change : Option Bytes) :
    (store.record key change).beneath = store.beneath := by
  obtain ⟨settled, changes, layers⟩ := store
  cases layers <;> rfl

@[simp] theorem beneath_openLayer (store : Store) :
    store.openLayer.beneath = (store.settled, store.layers ++ [store.changes]) := rfl

@[simp] theorem visible_openLayer (store : Store) : store.openLayer.visible = store.visible := rfl

theorem layers_of_above {above store : Store}
    (upper : above.beneath = store.openLayer.beneath) :
    above.settled = store.settled ∧ above.changes = store.changes ∧
      ∃ layer, above.layers = layer :: store.layers := by
  obtain ⟨settled, changes, layers⟩ := above
  rw [beneath_openLayer, beneath, Prod.mk.injEq] at upper
  obtain ⟨settledSame, tailSame⟩ := upper
  cases layers with
  | nil =>
      have lengths := congrArg List.length tailSame
      simp at lengths
  | cons layer below =>
      rw [List.cons_append, List.tail_cons] at tailSame
      obtain ⟨belowSame, changesSame⟩ := List.append_inj' tailSame rfl
      exact ⟨settledSame, List.singleton_inj.mp changesSame, layer, by rw [belowSame]⟩

theorem discardLayer?_above {above store : Store}
    (upper : above.beneath = store.openLayer.beneath) : above.discardLayer? = some store := by
  obtain ⟨settledSame, changesSame, layer, layersSame⟩ := layers_of_above upper
  obtain ⟨settled, changes, layers⟩ := above
  simp only at settledSame changesSame layersSame
  subst settledSame changesSame layersSame
  rfl

/-- Keeping a layer changes nothing that is visible and nothing further beneath. -/
theorem keepLayer?_above {above store : Store}
    (upper : above.beneath = store.openLayer.beneath) :
    ∃ kept, above.keepLayer? = some kept ∧ kept.visible = above.visible ∧
      kept.beneath = store.beneath := by
  obtain ⟨settledSame, changesSame, layer, layersSame⟩ := layers_of_above upper
  obtain ⟨settled, changes, layers⟩ := above
  obtain ⟨settledBelow, changesBelow, layersBelow⟩ := store
  simp only at settledSame changesSame layersSame
  subst settledSame changesSame layersSame
  cases layersBelow with
  | nil =>
      refine ⟨_, rfl, ?_, rfl⟩
      apply KeyMap.ext_find?
      intro key
      simp only [visible, List.foldr_nil, List.foldr_cons, KeyMap.find?_change,
        KeyMap.find?_override]
      cases layer.find? key <;> rfl
  | cons parent below =>
      refine ⟨_, rfl, ?_, rfl⟩
      apply KeyMap.ext_find?
      intro key
      simp only [visible, List.foldr_cons, KeyMap.find?_change, KeyMap.find?_override]
      cases layer.find? key <;> rfl

/-! ### Views and steps -/

def Seen (view : Store → α) : Prop :=
  ∀ left right : Store, left.visible = right.visible → view left = view right

/-- A step that works on the visible state, writes in the innermost layer, and leaves all keys
but the given ones as they are. -/
structure Local (keys : Bytes → Prop) (step : Store → Store) : Prop where
  beneath : ∀ store, (step store).beneath = store.beneath
  spares : ∀ store key, ¬keys key → (step store).get? key = store.get? key
  agrees : Seen fun store => (step store).visible

theorem seen_visible : Seen visible := fun _ _ same => same

theorem seen_get? (key : Bytes) : Seen (·.get? key) := by
  intro left right same
  dsimp only
  rw [get?_eq_find?, get?_eq_find?, same]

theorem seen_root : Seen root := by
  intro left right same
  unfold root
  rw [same]

theorem seen_const (answer : α) : Seen fun _ => answer := fun _ _ _ => rfl

theorem Seen.map {view : Store → α} (seen : Seen view) (use : α → β) :
    Seen fun store => use (view store) := by
  intro left right same
  exact congrArg use (seen left right same)

theorem Seen.bind {view : Store → α} {next : α → Store → β} (seen : Seen view)
    (nextSeen : ∀ answer, Seen (next answer)) : Seen fun store => next (view store) store := by
  intro left right same
  dsimp only
  rw [seen left right same]
  exact nextSeen _ left right same

namespace Local

variable {keys others : Bytes → Prop} {step next : Store → Store}

protected theorem id : Local keys fun store => store where
  beneath _ := rfl
  spares _ _ _ := rfl
  agrees := seen_visible

theorem comp (first : Local keys step) (second : Local keys next) :
    Local keys fun store => next (step store) where
  beneath store := (second.beneath (step store)).trans (first.beneath store)
  spares store key outside :=
    (second.spares (step store) key outside).trans (first.spares store key outside)
  agrees left right same := second.agrees (step left) (step right) (first.agrees left right same)

theorem bind {view : Store → α} (stepFor : α → Store → Store) (seen : Seen view)
    (isLocal : ∀ answer, Local keys (stepFor answer)) :
    Local keys fun store => stepFor (view store) store where
  beneath store := (isLocal (view store)).beneath store
  spares store := (isLocal (view store)).spares store
  agrees left right same := by
    dsimp only
    rw [seen left right same]
    exact (isLocal _).agrees left right same

theorem of_view {view : Store → α} (seen : Seen view)
    (steps : ∀ shown, ∃ next, Local keys next ∧
      ∀ store, view store = shown → step store = next store) : Local keys step where
  beneath store := by
    obtain ⟨next, isLocal, same⟩ := steps (view store)
    rw [same store rfl]
    exact isLocal.beneath store
  spares store := by
    obtain ⟨next, isLocal, same⟩ := steps (view store)
    rw [same store rfl]
    exact isLocal.spares store
  agrees left right alike := by
    obtain ⟨next, isLocal, same⟩ := steps (view left)
    dsimp only
    rw [same left rfl, same right (seen left right alike).symm]
    exact isLocal.agrees left right alike

theorem ite {condition : Prop} [Decidable condition] (first : Local keys step)
    (second : Local keys next) :
    Local keys fun store => if condition then step store else next store := by
  by_cases holds : condition
  · simpa [holds] using first
  · simpa [holds] using second

theorem record {key : Bytes} (inside : keys key) (change : Option Bytes) :
    Local keys (·.record key change) where
  beneath store := beneath_record store key change
  spares store other outside := by
    have different : other ≠ key := fun same => outside (same ▸ inside)
    rw [get?_record, if_neg different]
  agrees left right same := by
    dsimp only
    rw [visible_record, visible_record, same]

theorem put {key : Bytes} (inside : keys key) (value : Bytes) : Local keys (·.put key value) :=
  record inside (some value)

theorem erase {key : Bytes} (inside : keys key) : Local keys (·.erase key) :=
  record inside none

end Local

/-! ### Steps with an answer -/

structure Acts (keys : Bytes → Prop) (step : Store → α × Store) : Prop where
  seen : Seen fun store => (step store).1
  isLocal : Local keys fun store => (step store).2

namespace Acts

variable {keys : Bytes → Prop}

theorem answer (value : α) : Acts keys fun store => (value, store) where
  seen := seen_const value
  isLocal := Local.id

theorem looking {view : Store → α} (nextFor : α → Store → β × Store) (seen : Seen view)
    (acts : ∀ shown, Acts keys (nextFor shown)) :
    Acts keys fun store => nextFor (view store) store where
  seen := seen.bind fun shown => (acts shown).seen
  isLocal := Local.bind (fun shown store => (nextFor shown store).2) seen fun shown =>
    (acts shown).isLocal

theorem after {step : Store → Store} (next : Store → β × Store) (first : Local keys step)
    (second : Acts keys next) : Acts keys fun store => next (step store) where
  seen left right same := second.seen (step left) (step right) (first.agrees left right same)
  isLocal := first.comp second.isLocal

theorem bind {step : Store → α × Store} (nextFor : α → Store → β × Store) (first : Acts keys step)
    (acts : ∀ shown, Acts keys (nextFor shown)) :
    Acts keys fun store => nextFor (step store).1 (step store).2 where
  seen left right same := by
    have answers := first.seen left right same
    dsimp only at answers ⊢
    rw [answers]
    exact (acts _).seen _ _ (first.isLocal.agrees left right same)
  isLocal := by
    constructor
    · intro store
      exact ((acts _).isLocal.beneath _).trans (first.isLocal.beneath store)
    · intro store key outside
      exact ((acts _).isLocal.spares _ key outside).trans (first.isLocal.spares store key outside)
    · intro left right same
      have answers := first.seen left right same
      dsimp only at answers ⊢
      rw [answers]
      exact (acts _).isLocal.agrees _ _ (first.isLocal.agrees left right same)

end Acts

end Store

end StateTransition
