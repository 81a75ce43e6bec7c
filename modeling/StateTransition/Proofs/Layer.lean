import StateTransition.Proofs.Action
import StateTransition.Proofs.Codec
import StateTransition.Proofs.Store.Name
import StateTransition.Store.Layer

set_option autoImplicit false

/-! Bodies in layers. A body in a layer is local if it is local on its own and may move the
level; what it did is thrown away as a whole or kept as a whole. -/

namespace StateTransition.Layer

variable {α ε : Type} {keys : Bytes → Prop}

/-! ### The level -/

theorem level_seen : Store.Seen level := levelSlot.seen_get

theorem setLevel_local (inside : keys levelKey) (value : UInt32) :
    Store.Local keys (setLevel value) := by
  have erased : Store.Local keys levelSlot.erase := Slot.erase_local inside
  have written : Store.Local keys (levelSlot.put value) := Slot.put_local inside value
  exact erased.ite written

theorem lower_local (inside : keys levelKey) : Store.Local keys lower :=
  Store.Local.bind (fun value store => if value = 0 then store else setLevel (value - 1) store)
    level_seen fun _ => Store.Local.id.ite (setLevel_local inside _)

theorem level_setLevel (value : UInt32) (store : Store) : level (setLevel value store) = value := by
  unfold level setLevel
  by_cases zero : value = 0
  · rw [if_pos zero, Slot.get, Slot.stored?_erase, zero]
    rfl
  · have readsBack : levelSlot.codec.decodeFront? (levelSlot.codec.encode value) = some value :=
      Codec.word_faithful.decodeFront?_encode value trivial
    rw [if_neg zero, Slot.get, Slot.stored?_put _ readsBack]
    rfl

theorem level_eq_zero_of_absent {store : Store} (absent : store.get? levelKey = none) :
    level store = 0 :=
  levelSlot.get_of_none absent

theorem get?_setLevel (value : UInt32) (store : Store) (key : Bytes) (different : key ≠ levelKey) :
    (setLevel value store).get? key = store.get? key := by
  have isLocal : Store.Local (· = levelKey) (setLevel value) := by
    apply setLevel_local
    rfl
  exact isLocal.spares store key different

theorem visible_lower_setLevel {store : Store} (absent : store.get? levelKey = none) :
    (lower (setLevel 1 store)).visible = store.visible := by
  have lowered : lower (setLevel 1 store) = setLevel 0 (setLevel 1 store) := by
    unfold lower
    rw [level_setLevel, if_neg (by decide)]
    rfl
  rw [lowered]
  apply Store.visible_eq_of_get?
  intro key
  by_cases same : key = levelKey
  · subst same
    rw [absent]
    change (Store.erase _ levelKey).get? levelKey = none
    rw [Store.get?_erase, if_pos rfl]
  · rw [get?_setLevel _ _ _ same, get?_setLevel _ _ _ same]

/-! ### Runs in a layer -/

/-- The store in which a layer is opened: the level is raised outside of the layer. -/
def raised (store : Store) : Store := setLevel (level store + 1) store

theorem cleaning_run (body : Action α) (clean : Store → Store) (world : World) :
    Action.cleaning body clean world =
      match body world with
      | .ok value after => .ok value after
      | .error cause after => .error cause { after with store := clean after.store } := by
  change EStateM.tryCatch _ _ _ = _
  unfold EStateM.tryCatch
  cases body world <;> rfl

theorem within_closed (keep : α → Bool) (body : Action α) {world : World}
    (closed : enter? world.store = none) : within keep body world = .ok none world := by
  unfold within
  rw [Action.bind_run_ok (Action.look_run id world), id, closed]
  rfl

theorem within_entered (keep : α → Bool) (body : Action α) {world : World} {store : Store}
    (entered : enter? world.store = some store) :
    within keep body world = (do
      let answer ← Action.cleaning body (leave false)
      Action.change (leave (keep answer))
      return some answer : Action (Option α)) { world with store } := by
  unfold within
  rw [Action.bind_run_ok (Action.look_run id world), id, entered]
  dsimp only
  rw [Action.bind_run_ok (Action.change_run _ _)]

theorem within_run (keep : α → Bool) (body : Action α) (world : World) :
    within keep body world =
      if limit ≤ level world.store then .ok none world
      else
        match body { world with store := (raised world.store).openLayer } with
        | .ok value after => .ok (some value) { after with store := leave (keep value) after.store }
        | .error cause after => .error cause { after with store := leave false after.store } := by
  by_cases full : limit ≤ level world.store
  · have closed : enter? world.store = none := by rw [enter?, if_pos full]
    rw [if_pos full, within_closed keep body closed]
  · have entered : enter? world.store = some (raised world.store).openLayer := by
      rw [enter?, if_neg full]
      rfl
    rw [if_neg full, within_entered keep body entered, Action.bind_run, cleaning_run]
    cases body { world with store := (raised world.store).openLayer } <;> rfl

theorem leave_above {above store : Store} (upper : above.beneath = store.openLayer.beneath)
    (keep : Bool) :
    ∃ below, leave keep above = lower below ∧ below.beneath = store.beneath ∧
      below.visible = if keep then above.visible else store.visible := by
  cases keep with
  | false =>
      refine ⟨store, ?_, rfl, rfl⟩
      unfold leave
      simp only [Bool.false_eq_true, if_false, Store.discardLayer?_above upper, Option.getD_some]
  | true =>
      obtain ⟨kept, closes, looks, lies⟩ := Store.keepLayer?_above upper
      refine ⟨kept, ?_, lies, looks⟩
      unfold leave
      simp only [if_true, closes, Option.getD_some]

/-- The answer that decides on a layer; a trap throws it away. -/
def keeps (keep : α → Bool) : Except Trap α → Bool
  | .ok value => keep value
  | .error _ => false

def enteredWorld (world : World) : World := { world with store := (raised world.store).openLayer }

theorem within_answer (keep : α → Bool) (body : Action α) (world : World) :
    Action.answer (within keep body) world =
      if limit ≤ level world.store then .ok none
      else (Action.answer body (enteredWorld world)).map some := by
  rw [Action.answer, within_run]
  by_cases full : limit ≤ level world.store
  · rw [if_pos full, if_pos full]
  · rw [if_neg full, if_neg full, Action.answer, enteredWorld]
    cases body { world with store := (raised world.store).openLayer } <;> rfl

theorem within_ending (keep : α → Bool) (body : Action α) (world : World) :
    (Action.ending (within keep body) world).store =
      if limit ≤ level world.store then world.store
      else leave (keeps keep (Action.answer body (enteredWorld world)))
        (Action.ending body (enteredWorld world)).store := by
  rw [Action.ending, within_run]
  by_cases full : limit ≤ level world.store
  · rw [if_pos full, if_pos full]
  · rw [if_neg full, if_neg full, Action.answer, Action.ending, enteredWorld]
    cases body { world with store := (raised world.store).openLayer } <;> rfl

theorem hypothetically_run (body : Action α) {world : World}
    (free : ¬limit ≤ level world.store) :
    hypothetically body world =
      match body (enteredWorld world) with
      | .ok value after => .ok value { after with store := leave false after.store }
      | .error cause after => .error cause { after with store := leave false after.store } := by
  have opened : { world with store := (raised world.store).openLayer } = enteredWorld world := rfl
  unfold hypothetically
  rw [Action.bind_run, within_run, if_neg free, opened]
  cases body (enteredWorld world) <;> rfl

/-- At the limit a body is refused; below it, it is run, and what it did is kept if it succeeds. -/
theorem keepingSuccess_run (refuse : DispatchError → ε) (body : Action (Except ε α))
    (world : World) :
    keepingSuccess refuse body world =
      if limit ≤ level world.store then .ok (.error (refuse (.layer .limitReached))) world
      else
        match body (enteredWorld world) with
        | .ok outcome after =>
            .ok outcome { after with store := leave outcome.isOk after.store }
        | .error cause after => .error cause { after with store := leave false after.store } := by
  have opened : { world with store := (raised world.store).openLayer } = enteredWorld world := rfl
  unfold keepingSuccess
  rw [Action.bind_run, within_run, opened]
  by_cases full : limit ≤ level world.store
  · rw [if_pos full, if_pos full]
    rfl
  · rw [if_neg full, if_neg full]
    cases body (enteredWorld world) <;> rfl

/-! ### Locality -/

theorem raised_local (inside : keys levelKey) : Store.Local keys raised :=
  Store.Local.bind (fun value store => setLevel (value + 1) store) level_seen fun value =>
    setLevel_local inside (value + 1)

theorem Local.within (inside : keys levelKey) (keep : α → Bool) {body : Action α}
    (isLocal : Action.Local keys body) : Action.Local keys (within keep body) := by
  have entered : ∀ world : World,
      (Action.ending body (enteredWorld world)).store.beneath =
        (raised world.store).openLayer.beneath := fun world => isLocal.beneath _
  have raises : Store.Local keys raised := raised_local inside
  have lowers : Store.Local keys lower := lower_local inside
  constructor
  · intro world
    rw [within_ending]
    by_cases full : limit ≤ level world.store
    · rw [if_pos full]
    · rw [if_neg full]
      obtain ⟨below, left, lies, _⟩ := leave_above (entered world)
        (keeps keep (Action.answer body (enteredWorld world)))
      rw [left, lowers.beneath, lies, raises.beneath]
  · intro world key outside
    rw [within_ending]
    by_cases full : limit ≤ level world.store
    · rw [if_pos full]
    · rw [if_neg full]
      obtain ⟨below, left, _, looks⟩ := leave_above (entered world)
        (keeps keep (Action.answer body (enteredWorld world)))
      rw [left, lowers.spares _ key outside, Store.get?_eq_find?, looks]
      cases keeps keep (Action.answer body (enteredWorld world)) with
      | false =>
          rw [if_neg Bool.false_ne_true, ← Store.get?_eq_find?, raises.spares _ key outside]
      | true =>
          rw [if_pos rfl, ← Store.get?_eq_find?, isLocal.spares _ key outside]
          change (raised world.store).openLayer.get? key = _
          rw [Store.get?_eq_find?, Store.visible_openLayer, ← Store.get?_eq_find?,
            raises.spares _ key outside]
  · intro left right same
    have levels : level left.store = level right.store := level_seen _ _ same
    have raisedSame : (raised left.store).visible = (raised right.store).visible :=
      raises.agrees _ _ same
    have enteredSame : (enteredWorld left).store.visible = (enteredWorld right).store.visible :=
      raisedSame
    obtain ⟨answers, endings⟩ := isLocal.agrees _ _ enteredSame
    rw [within_answer, within_answer, within_ending, within_ending, levels, answers]
    by_cases full : limit ≤ level right.store
    · simp only [if_pos full, true_and]
      exact same
    · simp only [if_neg full, true_and]
      obtain ⟨leftBelow, leftEnd, _, leftLooks⟩ := leave_above (entered left)
        (keeps keep (Action.answer body (enteredWorld right)))
      obtain ⟨rightBelow, rightEnd, _, rightLooks⟩ := leave_above (entered right)
        (keeps keep (Action.answer body (enteredWorld right)))
      rw [leftEnd, rightEnd]
      apply lowers.agrees
      rw [leftLooks, rightLooks, endings, raisedSame]

theorem Local.keepingSuccess (inside : keys levelKey) (refuse : DispatchError → ε)
    {body : Action (Except ε α)} (isLocal : Action.Local keys body) :
    Action.Local keys (keepingSuccess refuse body) := by
  unfold Layer.keepingSuccess
  refine (Local.within inside Except.isOk isLocal).bind fun outcome => ?_
  cases outcome with
  | none => exact Action.Local.pure (Except.error (refuse (.layer .limitReached)) : Except ε α)
  | some answer => exact Action.Local.pure answer

/-! ### Failures -/

theorem below_limit_of_absent {store : Store} (absent : store.get? levelKey = none) :
    ¬limit ≤ level store := by
  rw [level_eq_zero_of_absent absent]
  decide

theorem within_discarded {others : Bytes → Prop} {keep : α → Bool} {body : Action α}
    {world after : World} {answer : Option α} (isLocal : Action.Local others body)
    (absent : world.store.get? levelKey = none)
    (run : within keep body world = .ok answer after) :
    ∃ value ended, answer = some value ∧ body (enteredWorld world) = .ok value ended ∧
      (keep value = false → after.store.visible = world.store.visible) := by
  have shallow : raised world.store = setLevel 1 world.store := by
    unfold raised
    rw [level_eq_zero_of_absent absent]
    rfl
  have lies := isLocal.beneath (enteredWorld world)
  have opened : { world with store := (raised world.store).openLayer } = enteredWorld world := rfl
  rw [within_run, if_neg (below_limit_of_absent absent), opened] at run
  cases inside : body (enteredWorld world) with
  | error trap ended =>
      rw [inside] at run
      cases run
  | ok value ended =>
      rw [inside] at run
      rw [Action.ending_of_run inside] at lies
      cases run
      refine ⟨value, ended, rfl, rfl, fun discards => ?_⟩
      obtain ⟨below, closes, _, looks⟩ := leave_above lies false
      change (leave (keep value) ended.store).visible = _
      rw [discards, closes, ← visible_lower_setLevel absent, ← shallow]
      have lowers : Store.Local (· = levelKey) lower := lower_local rfl
      exact lowers.agrees _ _ looks

theorem keepingSuccess_failed {others : Bytes → Prop} {refuse : DispatchError → ε}
    {body : Action (Except ε α)} {world after : World} {cause : ε}
    (isLocal : Action.Local others body) (absent : world.store.get? levelKey = none)
    (run : keepingSuccess refuse body world = .ok (.error cause) after) :
    (∃ ended, body (enteredWorld world) = .ok (.error cause) ended) ∧
      after.store.visible = world.store.visible := by
  unfold Layer.keepingSuccess at run
  obtain ⟨outcome, left, ran, answers⟩ := Action.bind_eq_ok run
  obtain ⟨value, ended, rfl, inside, discards⟩ := within_discarded isLocal absent ran
  cases answers
  exact ⟨⟨ended, inside⟩, discards rfl⟩

/-! ### What is left beside the level -/

theorem entered_get? (world : World) {key : Bytes} (different : key ≠ levelKey) :
    (enteredWorld world).store.get? key = world.store.get? key := by
  have raises : Store.Local (· = levelKey) raised := raised_local rfl
  change (raised world.store).openLayer.get? key = _
  rw [Store.get?_eq_find?, Store.visible_openLayer, ← Store.get?_eq_find?]
  exact raises.spares _ key different

theorem within_cases {others : Bytes → Prop} {keep : α → Bool} {body : Action α}
    {world after : World} {answer : Option α} (isLocal : Action.Local others body)
    (run : within keep body world = .ok answer after) :
    answer = none ∧ after = world ∨
      ∃ value ended, answer = some value ∧ body (enteredWorld world) = .ok value ended ∧
        ∀ key, key ≠ levelKey →
          after.store.get? key = if keep value then ended.store.get? key
            else world.store.get? key := by
  by_cases full : limit ≤ level world.store
  · rw [within_run, if_pos full] at run
    cases run
    exact Or.inl ⟨rfl, rfl⟩
  have lies := isLocal.beneath (enteredWorld world)
  have opened : { world with store := (raised world.store).openLayer } = enteredWorld world := rfl
  have lowers : Store.Local (· = levelKey) lower := lower_local rfl
  rw [within_run, if_neg full, opened] at run
  cases inside : body (enteredWorld world) with
  | error trap ended =>
      rw [inside] at run
      cases run
  | ok value ended =>
      rw [inside] at run
      rw [Action.ending_of_run inside] at lies
      cases run
      refine Or.inr ⟨value, ended, rfl, rfl, ?_⟩
      intro key different
      obtain ⟨below, closes, _, looks⟩ := leave_above lies (keep value)
      change (leave (keep value) ended.store).get? key = _
      rw [closes, lowers.spares _ key different, Store.get?_eq_find?, looks]
      cases keep value with
      | true => rw [if_pos rfl, if_pos rfl, ← Store.get?_eq_find?]
      | false =>
          rw [if_neg Bool.false_ne_true, if_neg Bool.false_ne_true, ← Store.get?_eq_find?]
          exact entered_get? world different

theorem keepingSuccess_cases {others : Bytes → Prop} {refuse : DispatchError → ε}
    {body : Action (Except ε α)} {world after : World} {outcome : Except ε α}
    (isLocal : Action.Local others body)
    (run : keepingSuccess refuse body world = .ok outcome after) :
    (∃ cause, outcome = .error cause ∧ ((∃ error, cause = refuse error) ∨
          ∃ ended, body (enteredWorld world) = .ok (.error cause) ended)) ∧
        (∀ key, key ≠ levelKey → after.store.get? key = world.store.get? key) ∨
      ∃ value ended, outcome = .ok value ∧ body (enteredWorld world) = .ok (.ok value) ended ∧
        ∀ key, key ≠ levelKey → after.store.get? key = ended.store.get? key := by
  unfold Layer.keepingSuccess at run
  obtain ⟨found, left, ran, answers⟩ := Action.bind_eq_ok run
  rcases within_cases isLocal ran with ⟨rfl, rfl⟩ | ⟨value, ended, rfl, inside, leaves⟩
  · cases answers
    exact Or.inl ⟨⟨_, rfl, Or.inl ⟨_, rfl⟩⟩, fun _ _ => rfl⟩
  · cases answers
    cases outcome with
    | error cause => exact Or.inl ⟨⟨cause, rfl, Or.inr ⟨ended, inside⟩⟩, leaves⟩
    | ok value => exact Or.inr ⟨value, ended, rfl, inside, leaves⟩

theorem hypothetically_spares {others : Bytes → Prop} {body : Action α} {world after : World}
    {value : α} (isLocal : Action.Local others body)
    (run : hypothetically body world = .ok value after) {key : Bytes} (different : key ≠ levelKey) :
    after.store.get? key = world.store.get? key := by
  unfold hypothetically at run
  obtain ⟨found, left, ran, answers⟩ := Action.bind_eq_ok run
  rcases within_cases isLocal ran with ⟨rfl, rfl⟩ | ⟨_, _, rfl, _, leaves⟩
  · cases answers
  · cases answers
    exact leaves key different

end StateTransition.Layer
