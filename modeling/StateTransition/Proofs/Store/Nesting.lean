import StateTransition.Proofs.Layer
import StateTransition.Proofs.Store.Maps

set_option autoImplicit false

/-! Layers in layers. The level is kept in the store and outside of the layer that it counts, so
that closing the layers inside moves it as well. Yet a program that leaves it to the layers ends with
as many open layers and the same level as it began with, trapped or not, and each of its layers is
kept as a whole or leaves nothing. -/

namespace StateTransition.Layer

variable {α β ε γ : Type}

/-! ### The level in the store -/

/-- The level is not stored, or is stored as a number from one to the limit. -/
def Leveled (store : Store) : Prop :=
  store.get? levelKey = none ∨
    ∃ value : UInt32, 1 ≤ value ∧ value ≤ limit ∧
      store.get? levelKey = some (Codec.word.encode value)

theorem get?_setLevel_levelKey (value : UInt32) (store : Store) :
    (setLevel value store).get? levelKey =
      if value = 0 then none else some (Codec.word.encode value) := by
  unfold setLevel
  by_cases zero : value = 0
  · rw [if_pos zero, if_pos zero]
    exact (Store.get?_erase store levelKey levelKey).trans (if_pos rfl)
  · rw [if_neg zero, if_neg zero]
    exact (Store.get?_put store levelKey levelKey _).trans (if_pos rfl)

theorem level_congr {left right : Store} (same : left.get? levelKey = right.get? levelKey) :
    level left = level right := levelSlot.get_congr same

theorem Leveled.stored {store : Store} (leveled : Leveled store) :
    level store ≤ limit ∧ ∀ other : Store,
      (setLevel (level store) other).get? levelKey = store.get? levelKey := by
  rcases leveled with absent | ⟨value, positive, bounded, found⟩
  · have zero : level store = 0 := level_eq_zero_of_absent absent
    rw [zero]
    refine ⟨by decide, fun other => ?_⟩
    rw [get?_setLevel_levelKey, if_pos rfl, absent]
  · have nonzero : value ≠ 0 := by
      rintro rfl
      revert positive
      decide
    have written : (setLevel value store).get? levelKey = store.get? levelKey := by
      rw [get?_setLevel_levelKey, if_neg nonzero, found]
    have same : level store = value := (level_congr written).symm.trans (level_setLevel value store)
    rw [same]
    refine ⟨bounded, fun other => ?_⟩
    rw [get?_setLevel_levelKey, if_neg nonzero, found]

theorem succ_of_lt_limit {value : UInt32} (room : value < limit) :
    1 ≤ value + 1 ∧ value + 1 ≤ limit := by
  have bound : value.toNat < 255 := UInt32.lt_iff_toNat_lt.mp room
  have next : (value + 1).toNat = value.toNat + 1 := by
    rw [UInt32.toNat_add]
    exact Nat.mod_eq_of_lt (by change value.toNat + 1 < 2 ^ 32; omega)
  constructor
  · rw [UInt32.le_iff_toNat_le, next]
    change 1 ≤ _
    omega
  · rw [UInt32.le_iff_toNat_le, next]
    change _ ≤ 255
    omega

theorem leveled_raised {store : Store} (room : level store < limit) : Leveled (raised store) := by
  obtain ⟨positive, bounded⟩ := succ_of_lt_limit room
  have nonzero : level store + 1 ≠ 0 := by
    intro zero
    rw [zero] at positive
    revert positive
    decide
  refine Or.inr ⟨level store + 1, positive, bounded, ?_⟩
  rw [raised, get?_setLevel_levelKey, if_neg nonzero]

theorem leveled_entered {world : World} (room : level world.store < limit) :
    Leveled (enteredWorld world).store := leveled_raised room

/-- Lowering undoes raising, whatever else has changed in between. -/
theorem lower_get?_levelKey {store below : Store} (leveled : Leveled store)
    (room : level store < limit) (same : below.get? levelKey = (raised store).get? levelKey) :
    (lower below).get? levelKey = store.get? levelKey := by
  have above : level below = level store + 1 := (level_congr same).trans (level_setLevel _ _)
  have nonzero : level store + 1 ≠ 0 := by
    intro zero
    have positive := (succ_of_lt_limit room).1
    rw [zero] at positive
    revert positive
    decide
  have lowered : lower below = setLevel (level store) below := by
    rw [lower, above, if_neg nonzero, UInt32.add_sub_cancel]
  rw [lowered]
  exact leveled.stored.2 below

/-! ### Programs in layers -/

/-- Runs of programs that are put together from reads, writes, erasures and layers within layers, and
that leave the level to the layers. -/
inductive Nested : {α : Type} → Action α → World → Prop
  | pure {α : Type} (value : α) (world : World) : Nested (Pure.pure value) world
  | trap {α : Type} (cause : Trap) (world : World) : Nested (Action.trap cause : Action α) world
  | look {α : Type} (view : Store → α) (world : World) : Nested (Action.look view) world
  | put {key : Bytes} (other : key ≠ levelKey) (value : Bytes) (world : World) :
      Nested (Action.change (·.put key value)) world
  | erase {key : Bytes} (other : key ≠ levelKey) (world : World) :
      Nested (Action.change (·.erase key)) world
  | eraseUnder {head : Bytes} {limit : Option Nat} {world : World}
      (others : levelKey ∉ world.store.visible.firstUnder head limit) :
      Nested (Action.update (·.eraseUnder head limit)) world
  | bind {α β : Type} {first : Action α} {next : α → Action β} {world : World}
      (begins : Nested first world)
      (continues : ∀ value middle, first world = .ok value middle → Nested (next value) middle) :
      Nested (first >>= next) world
  | deciding {α ε : Type} (refuse : DispatchError → ε) {body : Action (Bool × Except ε α)}
      {world : World} (inside : level world.store < limit → Nested body (enteredWorld world)) :
      Nested (Layer.deciding refuse body) world
  | keepingSuccess {α ε : Type} (refuse : DispatchError → ε) {body : Action (Except ε α)}
      {world : World} (inside : level world.store < limit → Nested body (enteredWorld world)) :
      Nested (Layer.keepingSuccess refuse body) world

/-- Nothing has happened to the open layers and to the level. -/
structure Balanced (before after : Store) : Prop where
  beneath : after.beneath = before.beneath
  level : after.get? levelKey = before.get? levelKey

theorem Balanced.refl (store : Store) : Balanced store store := ⟨rfl, rfl⟩

theorem Balanced.trans {first second third : Store} (earlier : Balanced first second)
    (later : Balanced second third) : Balanced first third where
  beneath := later.beneath.trans earlier.beneath
  level := later.level.trans earlier.level

theorem Balanced.leveled {before after : Store} (balanced : Balanced before after)
    (leveled : Leveled before) : Leveled after := by
  unfold Leveled
  rw [balanced.level]
  exact leveled

/-! ### One layer -/

/-- What a layer does, whose body says by its answer whether what it did is kept. At the limit the
body is not run and nothing changes. -/
structure Atomic (keep : α → Bool) (body : Action α) (layer : Action γ) (reply : Option α → γ)
    (world : World) : Prop where
  refused : level world.store = limit → layer world = .ok (reply none) world
  kept : level world.store ≠ limit → ∀ value ended,
    body (enteredWorld world) = .ok value ended → keep value = true →
      ∃ after, layer world = .ok (reply (some value)) after ∧ after.notes = ended.notes ∧
        Balanced world.store after.store ∧
        ∀ key, key ≠ levelKey → after.store.get? key = ended.store.get? key
  discarded : level world.store ≠ limit → ∀ value ended,
    body (enteredWorld world) = .ok value ended → keep value = false →
      ∃ after, layer world = .ok (reply (some value)) after ∧ after.notes = ended.notes ∧
        Balanced world.store after.store ∧ after.store.visible = world.store.visible
  trapped : level world.store ≠ limit → ∀ cause ended,
    body (enteredWorld world) = .error cause ended →
      ∃ after, layer world = .error cause after ∧
        Balanced world.store after.store ∧ after.store.visible = world.store.visible

theorem leave_balanced {store above : Store} (leveled : Leveled store) (room : level store < limit)
    (balanced : Balanced (raised store).openLayer above) (keep : Bool) :
    Balanced store (leave keep above) ∧
      (keep = true → ∀ key, key ≠ levelKey → (leave keep above).get? key = above.get? key) ∧
      (keep = false → (leave keep above).visible = store.visible) := by
  obtain ⟨below, left, lies, looks⟩ := leave_above balanced.beneath keep
  have lowers : Store.Local (· = levelKey) lower := lower_local rfl
  have raises : Store.Local (· = levelKey) raised := raised_local rfl
  have levelBelow : below.get? levelKey = (raised store).get? levelKey := by
    rw [Store.get?_eq_find?, looks]
    cases keep with
    | true => exact (Store.get?_eq_find? above levelKey).symm.trans balanced.level
    | false => exact (Store.get?_eq_find? (raised store) levelKey).symm
  have levelBack : (lower below).get? levelKey = store.get? levelKey :=
    lower_get?_levelKey leveled room levelBelow
  rw [left]
  refine ⟨⟨?_, levelBack⟩, ?_, ?_⟩
  · rw [lowers.beneath, lies, raises.beneath]
  · rintro rfl key different
    rw [lowers.spares _ key different, Store.get?_eq_find?, looks, if_pos rfl, Store.get?_eq_find?]
  · rintro rfl
    apply Store.visible_eq_of_get?
    intro key
    by_cases same : key = levelKey
    · rw [same, levelBack]
    · rw [lowers.spares _ key same, Store.get?_eq_find?, looks, if_neg Bool.false_ne_true,
        ← Store.get?_eq_find?, raises.spares _ key same]

/-- Nothing can be seen of what has happened, neither now nor once the innermost layer is thrown
away. -/
structure Untouched (before after : Store) : Prop where
  visible : after.visible = before.visible
  beneath : after.beneath = before.beneath

theorem Untouched.refl (store : Store) : Untouched store store := ⟨rfl, rfl⟩

theorem Untouched.depth {before after : Store} (untouched : Untouched before after) :
    after.depth = before.depth := Store.depth_eq_of_beneath untouched.beneath

theorem hypothetically_ending (body : Action α) (world : World) :
    Action.ending (hypothetically body) world =
      Action.ending (within (fun _ => false) body) world := by
  unfold hypothetically
  rw [Action.bind_ending]
  cases Action.answer (within (fun _ => false) body) world with
  | error cause => rfl
  | ok answer => cases answer <;> rfl

/-- However a body ends that is run hypothetically, refused, answered or trapped, nothing can be
seen of it. -/
theorem hypothetically_untouched {keys : Bytes → Prop} {body : Action α} {world : World}
    (leveled : Leveled world.store) (isLocal : Action.Local keys body) (outside : ¬keys levelKey) :
    Untouched world.store (Action.ending (hypothetically body) world).store := by
  rw [hypothetically_ending, within_ending]
  by_cases full : limit ≤ level world.store
  · rw [if_pos full]
    exact Untouched.refl world.store
  · have room : level world.store < limit := UInt32.not_le.mp full
    have inside : Balanced (raised world.store).openLayer
        (Action.ending body (enteredWorld world)).store :=
      ⟨isLocal.beneath (enteredWorld world), isLocal.spares (enteredWorld world) levelKey outside⟩
    have discards : keeps (fun _ => false) (Action.answer body (enteredWorld world)) = false := by
      cases Action.answer body (enteredWorld world) <;> rfl
    obtain ⟨balanced, _, looks⟩ := leave_balanced leveled room inside false
    rw [if_neg full, discards]
    exact ⟨looks rfl, balanced.beneath⟩

theorem within_atomic (keep : α → Bool) {body : Action α} {world : World}
    (leveled : Leveled world.store)
    (balanced : level world.store < limit →
      Balanced (enteredWorld world).store (Action.ending body (enteredWorld world)).store) :
    Atomic keep body (within keep body) id world := by
  have bounded := leveled.stored.1
  have opened : { world with store := (raised world.store).openLayer } = enteredWorld world := rfl
  have below : level world.store ≠ limit → level world.store < limit := fun different =>
    UInt32.lt_of_le_of_ne bounded different
  have free : level world.store ≠ limit → ¬limit ≤ level world.store := fun different =>
    UInt32.not_le.mpr (below different)
  constructor
  · intro full
    rw [within_run, if_pos (UInt32.le_of_eq full.symm)]
    rfl
  · intro different value ended ran keeps
    have inside := balanced (below different)
    rw [Action.ending_of_run ran] at inside
    obtain ⟨outside, leaves, _⟩ := leave_balanced leveled (below different) inside (keep value)
    refine ⟨{ ended with store := leave (keep value) ended.store }, ?_, rfl, outside, leaves keeps⟩
    rw [within_run, if_neg (free different), opened, ran]
    rfl
  · intro different value ended ran discards
    have inside := balanced (below different)
    rw [Action.ending_of_run ran] at inside
    obtain ⟨outside, _, leaves⟩ := leave_balanced leveled (below different) inside (keep value)
    refine ⟨{ ended with store := leave (keep value) ended.store }, ?_, rfl, outside, leaves discards⟩
    rw [within_run, if_neg (free different), opened, ran]
    rfl
  · intro different cause ended ran
    have inside := balanced (below different)
    rw [Action.ending, ran] at inside
    obtain ⟨outside, _, leaves⟩ := leave_balanced leveled (below different) inside false
    refine ⟨{ ended with store := leave false ended.store }, ?_, outside, leaves rfl⟩
    rw [within_run, if_neg (free different), opened, ran]

theorem Atomic.map {keep : α → Bool} {body : Action α} {layer : Action β} {reply : Option α → β}
    {world : World} (atomic : Atomic keep body layer reply world) (use : β → γ) :
    Atomic keep body (layer >>= fun answer => Pure.pure (use answer)) (fun given => use (reply given))
      world where
  refused full := by
    rw [Action.bind_run_ok (atomic.refused full)]
    rfl
  kept different value ended ran keeps := by
    obtain ⟨after, answered, leaves⟩ := atomic.kept different value ended ran keeps
    refine ⟨after, ?_, leaves⟩
    rw [Action.bind_run_ok answered]
    rfl
  discarded different value ended ran discards := by
    obtain ⟨after, answered, leaves⟩ := atomic.discarded different value ended ran discards
    refine ⟨after, ?_, leaves⟩
    rw [Action.bind_run_ok answered]
    rfl
  trapped different cause ended ran := by
    obtain ⟨after, trapped, leaves⟩ := atomic.trapped different cause ended ran
    refine ⟨after, ?_, leaves⟩
    rw [Action.bind_run, trapped]

/-- However a layer ends, nothing has happened to the open layers and to the level. -/
theorem Atomic.balanced {keep : α → Bool} {body : Action α} {layer : Action γ}
    {reply : Option α → γ} {world : World} (atomic : Atomic keep body layer reply world) :
    Balanced world.store (Action.ending layer world).store := by
  by_cases full : level world.store = limit
  · rw [Action.ending_of_run (atomic.refused full)]
    exact Balanced.refl world.store
  · cases ran : body (enteredWorld world) with
    | error cause ended =>
        obtain ⟨after, trapped, outside, _⟩ := atomic.trapped full cause ended ran
        rw [Action.ending, trapped]
        exact outside
    | ok value ended =>
        cases decision : keep value with
        | true =>
            obtain ⟨after, answered, _, outside, _⟩ := atomic.kept full value ended ran decision
            rw [Action.ending_of_run answered]
            exact outside
        | false =>
            obtain ⟨after, answered, _, outside, _⟩ := atomic.discarded full value ended ran decision
            rw [Action.ending_of_run answered]
            exact outside

/-- The reply of a layer: the answer of its body, or that there is no more room for it. -/
def replyOr (refuse : DispatchError → ε) (answer : β → Except ε α) : Option β → Except ε α
  | some given => answer given
  | none => .error (refuse (.layer .limitReached))

theorem deciding_atomic (refuse : DispatchError → ε) {body : Action (Bool × Except ε α)}
    {world : World} (leveled : Leveled world.store)
    (balanced : level world.store < limit →
      Balanced (enteredWorld world).store (Action.ending body (enteredWorld world)).store) :
    Atomic (·.1) body (deciding refuse body) (replyOr refuse (·.2)) world := by
  have same : deciding refuse body =
      within (·.1) body >>= fun answer => Pure.pure (replyOr refuse (·.2) answer) := by
    unfold deciding
    congr 1
    funext answer
    cases answer <;> rfl
  rw [same]
  exact (within_atomic (·.1) leveled balanced).map (replyOr refuse (·.2))

theorem keepingSuccess_atomic (refuse : DispatchError → ε) {body : Action (Except ε α)}
    {world : World} (leveled : Leveled world.store)
    (balanced : level world.store < limit →
      Balanced (enteredWorld world).store (Action.ending body (enteredWorld world)).store) :
    Atomic Except.isOk body (keepingSuccess refuse body) (replyOr refuse id) world := by
  have same : keepingSuccess refuse body =
      within Except.isOk body >>= fun answer => Pure.pure (replyOr refuse id answer) := by
    unfold keepingSuccess
    congr 1
    funext answer
    cases answer <;> rfl
  rw [same]
  exact (within_atomic Except.isOk leveled balanced).map (replyOr refuse id)

/-! ### All programs -/

theorem Nested.balanced {body : Action α} {world : World} (nested : Nested body world)
    (leveled : Leveled world.store) :
    Balanced world.store (Action.ending body world).store := by
  -- The level inside of a layer is in bounds as well, so the induction goes through its body.
  induction nested with
  | pure value world => exact Balanced.refl world.store
  | trap cause world => exact Balanced.refl world.store
  | look view world => exact Balanced.refl world.store
  | @put key other value world =>
      have level : (world.store.put key value).get? levelKey = world.store.get? levelKey := by
        rw [Store.get?_put, if_neg other.symm]
      exact ⟨Store.beneath_record world.store key (some value), level⟩
  | @erase key other world =>
      have level : (world.store.erase key).get? levelKey = world.store.get? levelKey := by
        rw [Store.get?_erase, if_neg other.symm]
      exact ⟨Store.beneath_record world.store key none, level⟩
  | @eraseUnder head limit world others =>
      change Balanced world.store (world.store.eraseUnder head limit).2
      rw [Store.eraseUnder_eq]
      constructor
      · exact Store.beneath_foldl_erase _ _
      · rw [Store.get?_foldl_erase, if_neg others]
  | @bind _ _ first next world begins continues ihFirst ihNext =>
      have earlier := ihFirst leveled
      rw [Action.bind_ending]
      cases answered : Action.answer first world with
      | error cause => exact earlier
      | ok value =>
          have ran := Action.run_of_answer_ok answered
          exact earlier.trans (ihNext value _ ran (earlier.leveled leveled))
  | deciding refuse inside ih =>
      exact (deciding_atomic refuse leveled fun room => ih room (leveled_entered room)).balanced
  | keepingSuccess refuse inside ih =>
      exact (keepingSuccess_atomic refuse leveled fun room => ih room (leveled_entered room)).balanced

/-- A program in layers ends with the open layers and the level that it began with. Each of its
layers is refused at the limit and only there; otherwise its answer is that of its body, and it is
kept as a whole or leaves nothing. -/
theorem nested_balanced_atomic {world : World} (leveled : Leveled world.store) :
    (∀ {α : Type} {body : Action α}, Nested body world →
        (Action.ending body world).store.depth = world.store.depth ∧
          (Action.ending body world).store.get? levelKey = world.store.get? levelKey) ∧
      (∀ {α ε : Type} (refuse : DispatchError → ε) {body : Action (Bool × Except ε α)},
        (level world.store < limit → Nested body (enteredWorld world)) →
          Atomic (·.1) body (deciding refuse body) (replyOr refuse (·.2)) world) ∧
      ∀ {α ε : Type} (refuse : DispatchError → ε) {body : Action (Except ε α)},
        (level world.store < limit → Nested body (enteredWorld world)) →
          Atomic Except.isOk body (keepingSuccess refuse body) (replyOr refuse id) world := by
  refine ⟨?_, ?_, ?_⟩
  · intro α body nested
    have balanced := nested.balanced leveled
    exact ⟨Store.depth_eq_of_beneath balanced.beneath, balanced.level⟩
  · intro α ε refuse body inside
    exact deciding_atomic refuse leveled fun room =>
      (inside room).balanced (leveled_entered room)
  · intro α ε refuse body inside
    exact keepingSuccess_atomic refuse leveled fun room =>
      (inside room).balanced (leveled_entered room)

/-- At the last level a layer is kept, although the one inside of it has been refused. -/
theorem nested_balanced_atomic_last :
    let store := Store.empty.put levelKey (Codec.word.encode (254 : UInt32))
    let inner : Action (Except DispatchError Unit) := keepingSuccess id do
      Action.change (·.erase [1])
      return .ok ()
    let body : Action (Bool × Except DispatchError Unit) := do
      Action.change (·.put [1] [7])
      let answer ← inner
      return (true, answer)
    Leveled store ∧ Nested (deciding id body) ⟨store, []⟩ ∧
      (∃ after, deciding id body ⟨store, []⟩ = .ok (.error (.layer .limitReached)) after ∧
        after.store.get? [1] = some [7]) ∧
      (Action.ending (deciding id body) ⟨store, []⟩).store.depth = 0 ∧
      (Action.ending (deciding id body) ⟨store, []⟩).store.get? levelKey =
        some (Codec.word.encode (254 : UInt32)) := by
  intro store inner body
  have leveled : Leveled store := Or.inr ⟨254, by decide, by decide, by decide⟩
  have nestedInner : ∀ world, Nested inner world := fun world =>
    .keepingSuccess id fun _ => .bind (.erase (by decide) _) fun _ _ _ => .pure _ _
  have nestedBody : ∀ world, Nested body world := fun world =>
    .bind (.put (by decide) _ _) fun _ _ _ => .bind (nestedInner _) fun _ _ _ => .pure _ _
  have nested : Nested (deciding id body) ⟨store, []⟩ := .deciding id fun _ => nestedBody _
  have unsettled : Leveled (World.mk store []).store := leveled
  obtain ⟨balanced, layers, _⟩ := nested_balanced_atomic unsettled
  obtain ⟨depth, level⟩ := balanced nested
  have inside : Action.answer body (enteredWorld ⟨store, []⟩) =
      .ok (true, .error (.layer .limitReached)) := by decide
  have ran := Action.run_of_answer_ok inside
  obtain ⟨after, answered, _, _, leaves⟩ :=
    (layers id fun _ => nestedBody _).kept (by decide) _ _ ran rfl
  refine ⟨leveled, nested, ⟨after, answered, ?_⟩, depth, level⟩
  rw [leaves [1] (by decide)]
  decide

end StateTransition.Layer
