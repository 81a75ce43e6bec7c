import StateTransition.Action
import StateTransition.Proofs.Store.Slot

set_option autoImplicit false

/-! Local actions: they work on the visible state alone, write in the innermost layer, and leave
all keys but some as they are. Whatever is put together from local actions is local. -/

namespace StateTransition

instance decidableEqExcept {ε α : Type} [DecidableEq ε] [DecidableEq α] :
    DecidableEq (Except ε α)
  | .error left, .error right =>
      decidable_of_iff (left = right) (Iff.of_eq (Except.error.injEq left right).symm)
  | .ok left, .ok right =>
      decidable_of_iff (left = right) (Iff.of_eq (Except.ok.injEq left right).symm)
  | .error _, .ok _ => isFalse nofun
  | .ok _, .error _ => isFalse nofun

variable {α β ε η ρ : Type} {keys others : Bytes → Prop}

namespace Query

theorem seen_pure (value : α) : Store.Seen (pure value : Query α) := Store.seen_const _

theorem bind_congr {first : Query α} {next : α → Query β} {left right : Store}
    (firstSame : first left = first right) (nextSame : ∀ value, next value left = next value right) :
    (first >>= next) left = (first >>= next) right := by
  change Except.bind (first left) (fun value => next value left) =
    Except.bind (first right) fun value => next value right
  rw [firstSame]
  cases first right with
  | ok value => exact nextSame value
  | error cause => rfl

theorem seen_bind {first : Query α} {next : α → Query β} (firstSeen : Store.Seen first)
    (nextSeen : ∀ value, Store.Seen (next value)) : Store.Seen (first >>= next) :=
  fun left right same => bind_congr (firstSeen left right same) fun value =>
    nextSeen value left right same

theorem bind_eq_ok {first : Query α} {next : α → Query β} {store : Store} {value : β}
    (found : (first >>= next) store = .ok value) :
    ∃ between, first store = .ok between ∧ next between store = .ok value := by
  change Except.bind (first store) (fun between => next between store) = _ at found
  cases atFirst : first store with
  | error cause =>
      rw [atFirst] at found
      cases found
  | ok between =>
      rw [atFirst] at found
      exact ⟨between, rfl, found⟩

theorem bind_run_ok {first : Query α} {next : α → Query β} {store : Store} {between : α}
    (atFirst : first store = .ok between) : (first >>= next) store = next between store := by
  change Except.bind (first store) (fun value => next value store) = _
  rw [atFirst]
  rfl

end Query

namespace Action

def ending (body : Action α) (world : World) : World :=
  match body world with
  | .ok _ after => after
  | .error _ after => after

def answer (body : Action α) (world : World) : Except Trap α :=
  match body world with
  | .ok value _ => .ok value
  | .error cause _ => .error cause

structure Local (keys : Bytes → Prop) (body : Action α) : Prop where
  beneath : ∀ world, (ending body world).store.beneath = world.store.beneath
  spares : ∀ world key, ¬keys key →
    (ending body world).store.get? key = world.store.get? key
  agrees : ∀ left right : World, left.store.visible = right.store.visible →
    answer body left = answer body right ∧
      (ending body left).store.visible = (ending body right).store.visible

/-! ### Single runs -/

theorem run_eq (body : Action α) (world : World) :
    body world =
      match answer body world with
      | .ok value => .ok value (ending body world)
      | .error cause => .error cause (ending body world) := by
  unfold answer ending
  cases body world <;> rfl

theorem run_of_answer_ok {body : Action α} {world : World} {value : α}
    (answered : answer body world = .ok value) : body world = .ok value (ending body world) := by
  have run := run_eq body world
  rwa [answered] at run

theorem ending_of_run {body : Action α} {world after : World} {value : α}
    (run : body world = .ok value after) : ending body world = after := by
  rw [ending, run]

theorem answer_of_run {body : Action α} {world after : World} {value : α}
    (run : body world = .ok value after) : answer body world = .ok value := by
  rw [answer, run]

theorem bind_run (first : Action α) (next : α → Action β) (world : World) :
    (first >>= next) world =
      match first world with
      | .ok value after => next value after
      | .error cause after => .error cause after := by
  change EStateM.bind first next world = _
  unfold EStateM.bind
  cases first world <;> rfl

theorem bind_eq_ok {first : Action α} {next : α → Action β} {world after : World} {value : β}
    (run : (first >>= next) world = .ok value after) :
    ∃ between middle, first world = .ok between middle ∧ next between middle = .ok value after := by
  rw [bind_run] at run
  cases atFirst : first world with
  | ok between middle =>
      rw [atFirst] at run
      exact ⟨between, middle, rfl, run⟩
  | error cause middle =>
      rw [atFirst] at run
      cases run

theorem bind_run_ok {first : Action α} {next : α → Action β} {world middle : World} {between : α}
    (atFirst : first world = .ok between middle) :
    (first >>= next) world = next between middle := by
  rw [bind_run, atFirst]

theorem bind_ending (first : Action α) (next : α → Action β) (world : World) :
    ending (first >>= next) world =
      match answer first world with
      | .ok value => ending (next value) (ending first world)
      | .error _ => ending first world := by
  rw [ending, bind_run, answer, ending]
  cases first world <;> rfl

theorem bind_answer (first : Action α) (next : α → Action β) (world : World) :
    answer (first >>= next) world =
      match answer first world with
      | .ok value => answer (next value) (ending first world)
      | .error cause => .error cause := by
  rw [answer, bind_run, answer, ending]
  cases first world <;> rfl

theorem map_run (use : α → β) (body : Action α) (world : World) :
    (use <$> body) world =
      match body world with
      | .ok value after => .ok (use value) after
      | .error cause after => .error cause after := by
  change EStateM.map use body world = _
  unfold EStateM.map
  cases body world <;> rfl

theorem map_eq_ok {use : α → β} {body : Action α} {world after : World} {value : β}
    (run : (use <$> body) world = .ok value after) :
    ∃ given, body world = .ok given after ∧ value = use given := by
  rw [map_run] at run
  cases ran : body world with
  | error cause ended =>
      rw [ran] at run
      cases run
  | ok given ended =>
      rw [ran] at run
      cases run
      exact ⟨given, rfl, rfl⟩

theorem map_answer (use : α → β) (body : Action α) (world : World) :
    answer (use <$> body) world = (answer body world).map use := by
  rw [answer, map_run, answer]
  cases body world <;> rfl

theorem map_ending (use : α → β) (body : Action α) (world : World) :
    ending (use <$> body) world = ending body world := by
  rw [ending, map_run, ending]
  cases body world <;> rfl

@[simp] theorem pure_run (value : α) (world : World) :
    (pure value : Action α) world = .ok value world := rfl

@[simp] theorem look_run (view : Store → α) (world : World) :
    look view world = .ok (view world.store) world := rfl

theorem look_bind {view : Store → α} {next : α → Action β} {world after : World} {value : β}
    (run : (look view >>= next) world = .ok value after) :
    next (view world.store) world = .ok value after := by
  rwa [bind_run, look_run] at run

@[simp] theorem change_run (step : Store → Store) (world : World) :
    change step world = .ok () { world with store := step world.store } := rfl

@[simp] theorem update_run (step : Store → α × Store) (world : World) :
    update step world = .ok (step world.store).1 { world with store := (step world.store).2 } := rfl

theorem ask_run (query : Query α) (world : World) :
    ask query world =
      match query world.store with
      | .ok value => .ok value world
      | .error cause => .error cause world := by
  change (match query world.store with
    | .ok value => (pure value : Action α)
    | .error cause => throw cause) world = _
  cases query world.store <;> rfl

theorem ask_eq_ok {query : Query α} {world after : World} {value : α}
    (run : ask query world = .ok value after) : query world.store = .ok value ∧ after = world := by
  rw [ask_run] at run
  cases found : query world.store with
  | error cause =>
      rw [found] at run
      cases run
  | ok answered =>
      rw [found] at run
      cases run
      exact ⟨rfl, rfl⟩

theorem ask_ending (query : Query α) (world : World) : ending (ask query) world = world := by
  rw [ending, ask_run]
  cases query world.store <;> rfl

theorem ask_of_ok {query : Query α} {world : World} {value : α}
    (found : query world.store = .ok value) : ask query world = .ok value world := by
  rw [ask_run, found]

/-! ### Putting local actions together -/

namespace Local

theorem spared {body : Action α} (isLocal : Local keys body) {world after : World} {value : α}
    (run : body world = .ok value after) {key : Bytes} (outside : ¬keys key) :
    after.store.get? key = world.store.get? key := by
  have same := isLocal.spares world key outside
  rwa [ending_of_run run] at same

theorem mono {body : Action α} (isLocal : Local keys body)
    (within : ∀ key, keys key → others key) : Local others body where
  beneath := isLocal.beneath
  spares world key outside := isLocal.spares world key fun inside => outside (within key inside)
  agrees := isLocal.agrees

protected theorem pure (value : α) : Local keys (pure value : Action α) where
  beneath _ := rfl
  spares _ _ _ := rfl
  agrees _ _ same := ⟨rfl, same⟩

theorem trap (cause : Trap) : Local keys (Action.trap cause : Action α) where
  beneath _ := rfl
  spares _ _ _ := rfl
  agrees _ _ same := ⟨rfl, same⟩

theorem note (text : String) : Local keys (Action.note text) where
  beneath _ := rfl
  spares _ _ _ := rfl
  agrees _ _ same := ⟨rfl, same⟩

theorem update {step : Store → α × Store} (seen : Store.Seen fun store => (step store).1)
    (isLocal : Store.Local keys fun store => (step store).2) : Local keys (Action.update step) where
  beneath world := isLocal.beneath world.store
  spares world := isLocal.spares world.store
  agrees left right same :=
    ⟨congrArg Except.ok (seen left.store right.store same),
      isLocal.agrees left.store right.store same⟩

theorem change {step : Store → Store} (isLocal : Store.Local keys step) :
    Local keys (Action.change step) where
  beneath world := isLocal.beneath world.store
  spares world := isLocal.spares world.store
  agrees left right same := ⟨rfl, isLocal.agrees left.store right.store same⟩

theorem look {view : Store → α} (seen : Store.Seen view) : Local keys (Action.look view) where
  beneath _ := rfl
  spares _ _ _ := rfl
  agrees left right same := ⟨congrArg Except.ok (seen left.store right.store same), same⟩

theorem ask {query : Query α} (seen : Store.Seen query) : Local keys (Action.ask query) := by
  have unmoved : ∀ world, ending (Action.ask query) world = world := by
    intro world
    rw [ending, ask_run]
    cases query world.store <;> rfl
  have answered : ∀ world, answer (Action.ask query) world = query world.store := by
    intro world
    rw [answer, ask_run]
    cases query world.store <;> rfl
  constructor
  · intro world
    rw [unmoved]
  · intro world key _
    rw [unmoved]
  · intro left right same
    rw [unmoved, unmoved, answered, answered]
    exact ⟨seen left.store right.store same, same⟩

theorem bind {first : Action α} {next : α → Action β} (firstLocal : Local keys first)
    (nextLocal : ∀ value, Local keys (next value)) : Local keys (first >>= next) := by
  constructor
  · intro world
    rw [bind_ending]
    cases answer first world with
    | ok value => exact ((nextLocal value).beneath _).trans (firstLocal.beneath world)
    | error cause => exact firstLocal.beneath world
  · intro world key outside
    rw [bind_ending]
    cases answer first world with
    | ok value =>
        exact ((nextLocal value).spares _ key outside).trans (firstLocal.spares world key outside)
    | error cause => exact firstLocal.spares world key outside
  · intro left right same
    obtain ⟨sameAnswer, sameEnding⟩ := firstLocal.agrees left right same
    rw [bind_ending, bind_ending, bind_answer, bind_answer, sameAnswer]
    cases answer first right with
    | ok value => exact (nextLocal value).agrees _ _ sameEnding
    | error cause => exact ⟨rfl, sameEnding⟩

theorem map {first : Action α} (isLocal : Local keys first) (use : α → β) :
    Local keys (use <$> first) := by
  have same : use <$> first = first >>= fun value => pure (use value) := by
    funext world
    rw [bind_run, map_run]
    cases first world <;> rfl
  rw [same]
  exact isLocal.bind fun value => Local.pure (use value)

theorem ite {condition : Prop} [Decidable condition] {first second : Action α}
    (firstLocal : Local keys first) (secondLocal : Local keys second) :
    Local keys (if condition then first else second) := by
  by_cases holds : condition
  · rwa [if_pos holds]
  · rwa [if_neg holds]

protected theorem forIn (items : List β) {step : β → α → Action (ForInStep α)}
    (stepLocal : ∀ item value, Local keys (step item value)) (value : α) :
    Local keys (forIn items value step) := by
  induction items generalizing value with
  | nil => exact Local.pure value
  | cons first others ih =>
      rw [List.forIn_cons]
      refine (stepLocal first value).bind fun outcome => ?_
      cases outcome with
      | done last => exact Local.pure last
      | yield next => exact ih next

theorem foldlM (items : List β) {step : α → β → Action α}
    (isLocal : ∀ value, ∀ item ∈ items, Local keys (step value item)) (start : α) :
    Local keys (items.foldlM step start) := by
  induction items generalizing start with
  | nil => exact Local.pure start
  | cons first rest ih =>
      rw [List.foldlM_cons]
      exact (isLocal start first List.mem_cons_self).bind fun value =>
        ih (fun value item member => isLocal value item (List.mem_cons_of_mem _ member)) value

theorem forM (items : List β) {step : β → Action PUnit}
    (isLocal : ∀ item ∈ items, Local keys (step item)) : Local keys (items.forM step) := by
  induction items with
  | nil => exact Local.pure PUnit.unit
  | cons first rest ih =>
      exact (isLocal first List.mem_cons_self).bind fun _ =>
        ih fun item member => isLocal item (List.mem_cons_of_mem _ member)

end Local

end Action

namespace Attempt

/-- An attempt is local if it is so as an action, refused or not. -/
def Local (keys : Bytes → Prop) (body : Attempt ε α) : Prop := Action.Local keys body.run

theorem bind_run (first : Attempt ε α) (next : α → Attempt ε β) :
    (first >>= next).run = first.run >>= fun
      | .ok value => (next value).run
      | .error cause => pure (.error cause) := by
  change ExceptT.bind first next = _
  unfold ExceptT.bind ExceptT.mk
  congr 1
  funext outcome
  cases outcome <;> rfl

theorem lift_run (body : Action α) :
    (liftM body : Attempt ε α).run = body >>= fun value => pure (.ok value) := by
  change Except.ok <$> body = _
  funext world
  rw [Action.bind_run, Action.map_run]
  cases body world <;> rfl

theorem bind_run_ok {first : Attempt ε α} {next : α → Attempt ε β} {world middle : World}
    {between : α} (atFirst : first.run world = .ok (.ok between) middle) :
    (first >>= next).run world = (next between).run middle := by
  rw [bind_run, Action.bind_run_ok atFirst]

theorem bind_run_error {first : Attempt ε α} {next : α → Attempt ε β} {world after : World}
    {cause : ε} (atFirst : first.run world = .ok (.error cause) after) :
    (first >>= next).run world = .ok (.error cause) after := by
  rw [bind_run, Action.bind_run_ok atFirst]
  rfl

theorem lift_run_ok {body : Action α} {world after : World} {value : α}
    (ran : body world = .ok value after) :
    (liftM body : Attempt ε α).run world = .ok (.ok value) after := by
  rw [lift_run, Action.bind_run_ok ran]
  rfl

/-! ### Successful runs -/

theorem bind_eq_ok {first : Attempt ε α} {next : α → Attempt ε β} {world after : World} {value : β}
    (run : (first >>= next).run world = .ok (.ok value) after) :
    ∃ between middle, first.run world = .ok (.ok between) middle ∧
      (next between).run middle = .ok (.ok value) after := by
  rw [bind_run] at run
  obtain ⟨outcome, middle, atFirst, later⟩ := Action.bind_eq_ok run
  cases outcome with
  | error cause => cases later
  | ok between => exact ⟨between, middle, atFirst, later⟩

theorem lift_eq_ok {body : Action α} {world after : World} {value : α}
    (run : (liftM body : Attempt ε α).run world = .ok (.ok value) after) :
    body world = .ok value after := by
  rw [lift_run] at run
  obtain ⟨outcome, middle, atFirst, later⟩ := Action.bind_eq_ok run
  rw [Action.pure_run] at later
  cases later
  exact atFirst

theorem ask_eq_ok {query : Query (Except ε α)} {world after : World} {value : α}
    (run : (ask query).run world = .ok (.ok value) after) :
    query world.store = .ok (.ok value) ∧ after = world := by
  exact Action.ask_eq_ok run

theorem liftExcept_eq_ok {outcome : Except ε α} {world after : World} {value : α}
    (run : (liftM outcome : Attempt ε α).run world = .ok (.ok value) after) :
    outcome = .ok value ∧ after = world := by
  change (pure outcome : Action (Except ε α)) world = _ at run
  rw [Action.pure_run] at run
  cases run
  exact ⟨rfl, rfl⟩

theorem pure_eq_ok {world after : World} {value result : α}
    (run : (pure value : Attempt ε α).run world = .ok (.ok result) after) :
    value = result ∧ after = world := by
  change (pure (Except.ok value) : Action (Except ε α)) world = _ at run
  rw [Action.pure_run] at run
  cases run
  exact ⟨rfl, rfl⟩

/-! ### Runs that may be refused -/

theorem bind_cases {first : Attempt ε α} {next : α → Attempt ε β} {world after : World}
    {outcome : Except ε β} (run : (first >>= next).run world = .ok outcome after) :
    (∃ cause, outcome = .error cause ∧ first.run world = .ok (.error cause) after) ∨
      ∃ between middle, first.run world = .ok (.ok between) middle ∧
        (next between).run middle = .ok outcome after := by
  rw [bind_run] at run
  obtain ⟨found, middle, atFirst, later⟩ := Action.bind_eq_ok run
  cases found with
  | error cause =>
      cases later
      exact Or.inl ⟨cause, rfl, atFirst⟩
  | ok between => exact Or.inr ⟨between, middle, atFirst, later⟩

theorem lift_cases {body : Action α} {world after : World} {outcome : Except ε α}
    (run : (liftM body : Attempt ε α).run world = .ok outcome after) :
    ∃ value, outcome = .ok value ∧ body world = .ok value after := by
  rw [lift_run] at run
  obtain ⟨value, middle, atFirst, later⟩ := Action.bind_eq_ok run
  cases later
  exact ⟨value, rfl, atFirst⟩

theorem lift_bind {body : Action α} {next : α → Attempt ε β} {world after : World}
    {outcome : Except ε β}
    (run : ((liftM body : Attempt ε α) >>= next).run world = .ok outcome after) :
    ∃ value middle, body world = .ok value middle ∧
      (next value).run middle = .ok outcome after := by
  rcases bind_cases run with ⟨_, _, refused⟩ | ⟨value, middle, atFirst, later⟩
  · obtain ⟨_, impossible, _⟩ := lift_cases refused
    cases impossible
  · exact ⟨value, middle, lift_eq_ok atFirst, later⟩

theorem look_bind {view : Store → α} {next : α → Attempt ε β} {world after : World}
    {outcome : Except ε β} (run : (look view >>= next).run world = .ok outcome after) :
    (next (view world.store)).run world = .ok outcome after := by
  obtain ⟨value, middle, looks, later⟩ := lift_bind run
  cases looks
  exact later

theorem liftExcept_cases {given outcome : Except ε α} {world after : World}
    (run : (liftM given : Attempt ε α).run world = .ok outcome after) :
    outcome = given ∧ after = world := by
  change (pure given : Action (Except ε α)) world = _ at run
  rw [Action.pure_run] at run
  cases run
  exact ⟨rfl, rfl⟩

theorem demand_cases {condition : Bool} {cause : ε} {world after : World} {outcome : Except ε Unit}
    (run : (demand condition cause).run world = .ok outcome after) :
    after = world ∧
      (condition = true ∧ outcome = .ok () ∨ condition = false ∧ outcome = .error cause) := by
  cases condition with
  | true =>
      cases run
      exact ⟨rfl, Or.inl ⟨rfl, rfl⟩⟩
  | false =>
      cases run
      exact ⟨rfl, Or.inr ⟨rfl, rfl⟩⟩

/-! ### Putting local attempts together -/

namespace Local

protected theorem pure (value : α) : Local keys (pure value : Attempt ε α) :=
  Action.Local.pure (Except.ok value : Except ε α)

theorem throw (cause : ε) : Local keys (throw cause : Attempt ε α) :=
  Action.Local.pure (Except.error cause : Except ε α)

theorem mk {body : Action (Except ε α)} (isLocal : Action.Local keys body) :
    Local keys (ExceptT.mk body) := isLocal

theorem lift {body : Action α} (isLocal : Action.Local keys body) :
    Local keys (liftM body : Attempt ε α) := by
  rw [Local, lift_run]
  exact isLocal.bind fun value => Action.Local.pure (Except.ok value : Except ε α)

theorem liftExcept (outcome : Except ε α) : Local keys (liftM outcome : Attempt ε α) :=
  Action.Local.pure outcome

theorem look {view : Store → α} (seen : Store.Seen view) :
    Local keys (Attempt.look view : Attempt ε α) :=
  lift (Action.Local.look seen)

theorem ask {query : Query (Except ε α)} (seen : Store.Seen query) :
    Local keys (Attempt.ask query) :=
  Action.Local.ask seen

theorem update {step : Store → Except ε α × Store}
    (seen : Store.Seen fun store => (step store).1)
    (isLocal : Store.Local keys fun store => (step store).2) : Local keys (Attempt.update step) :=
  Action.Local.update seen isLocal

theorem demand (condition : Bool) (cause : ε) : Local keys (Attempt.demand condition cause) := by
  unfold Attempt.demand
  cases condition with
  | false => exact throw cause
  | true => exact Local.pure ()

theorem bind {first : Attempt ε α} {next : α → Attempt ε β} (firstLocal : Local keys first)
    (nextLocal : ∀ value, Local keys (next value)) : Local keys (first >>= next) := by
  rw [Local, bind_run]
  refine Action.Local.bind firstLocal fun outcome => ?_
  cases outcome with
  | ok value => exact nextLocal value
  | error cause => exact Action.Local.pure (Except.error cause : Except ε β)

theorem ite {condition : Prop} [Decidable condition] {first second : Attempt ε α}
    (firstLocal : Local keys first) (secondLocal : Local keys second) :
    Local keys (if condition then first else second) := by
  by_cases holds : condition
  · rwa [if_pos holds]
  · rwa [if_neg holds]

theorem adapt {body : Attempt ε α} (isLocal : Local keys body) (use : ε → η) :
    Local keys (body.adapt use) :=
  Action.Local.map isLocal (Except.mapError use)

theorem forM (items : List β) {step : β → Attempt ε PUnit}
    (isLocal : ∀ item ∈ items, Local keys (step item)) : Local keys (items.forM step) := by
  induction items with
  | nil => exact Local.pure PUnit.unit
  | cons first rest ih =>
      exact (isLocal first List.mem_cons_self).bind fun _ =>
        ih fun item member => isLocal item (List.mem_cons_of_mem _ member)

end Local

end Attempt

end StateTransition
