import StateTransition.Call.Layered
import StateTransition.Proofs.Layer

set_option autoImplicit false

/-! Runs that never end in a trap, in whatever world they begin. An attempt may still be refused.
Whatever is put together from such runs is one, and so is a call that is run in a layer. -/

namespace StateTransition

variable {α β ε η : Type}

namespace Action

/-- Ends without a trap. -/
def Total (body : Action α) : Prop := ∀ world, ∃ value after, body world = .ok value after

namespace Total

protected theorem pure (value : α) : Total (pure value : Action α) :=
  fun world => ⟨value, world, rfl⟩

theorem look (view : Store → α) : Total (Action.look view) :=
  fun world => ⟨view world.store, world, rfl⟩

theorem change (step : Store → Store) : Total (Action.change step) :=
  fun world => ⟨(), { world with store := step world.store }, rfl⟩

theorem update (step : Store → α × Store) : Total (Action.update step) :=
  fun world => ⟨(step world.store).1, { world with store := (step world.store).2 }, rfl⟩

theorem bind {first : Action α} {next : α → Action β} (firstTotal : Total first)
    (nextTotal : ∀ value, Total (next value)) : Total (first >>= next) := by
  intro world
  obtain ⟨between, middle, atFirst⟩ := firstTotal world
  obtain ⟨value, after, later⟩ := nextTotal between middle
  exact ⟨value, after, (bind_run_ok atFirst).trans later⟩

theorem map {body : Action α} (total : Total body) (use : α → β) : Total (use <$> body) := by
  intro world
  obtain ⟨value, after, run⟩ := total world
  refine ⟨use value, after, ?_⟩
  rw [map_run, run]

theorem ite {condition : Prop} [Decidable condition] {first second : Action α}
    (firstTotal : Total first) (secondTotal : Total second) :
    Total (if condition then first else second) := by
  by_cases holds : condition
  · rwa [if_pos holds]
  · rwa [if_neg holds]

theorem foldlM (items : List β) {step : α → β → Action α}
    (total : ∀ value, ∀ item ∈ items, Total (step value item)) (start : α) :
    Total (items.foldlM step start) := by
  induction items generalizing start with
  | nil => exact Total.pure start
  | cons first rest ih =>
      rw [List.foldlM_cons]
      exact (total start first List.mem_cons_self).bind fun value =>
        ih (fun value item member => total value item (List.mem_cons_of_mem _ member)) value

end Total

end Action

namespace Attempt

def Total (body : Attempt ε α) : Prop := Action.Total body.run

namespace Total

protected theorem pure (value : α) : Total (pure value : Attempt ε α) :=
  Action.Total.pure (Except.ok value : Except ε α)

theorem throw (cause : ε) : Total (throw cause : Attempt ε α) :=
  Action.Total.pure (Except.error cause : Except ε α)

theorem mk {body : Action (Except ε α)} (total : Action.Total body) : Total (ExceptT.mk body) :=
  total

theorem lift {body : Action α} (total : Action.Total body) :
    Total (liftM body : Attempt ε α) := by
  rw [Total, lift_run]
  exact total.bind fun value => Action.Total.pure (Except.ok value : Except ε α)

theorem liftExcept (outcome : Except ε α) : Total (liftM outcome : Attempt ε α) :=
  Action.Total.pure outcome

theorem look (view : Store → α) : Total (Attempt.look view : Attempt ε α) :=
  lift (Action.Total.look view)

theorem demand (condition : Bool) (cause : ε) : Total (Attempt.demand condition cause) := by
  unfold Attempt.demand
  cases condition with
  | false => exact throw cause
  | true => exact Total.pure ()

theorem bind {first : Attempt ε α} {next : α → Attempt ε β} (firstTotal : Total first)
    (nextTotal : ∀ value, Total (next value)) : Total (first >>= next) := by
  rw [Total, bind_run]
  refine Action.Total.bind firstTotal fun outcome => ?_
  cases outcome with
  | ok value => exact nextTotal value
  | error cause => exact Action.Total.pure (Except.error cause : Except ε β)

theorem ite {condition : Prop} [Decidable condition] {first second : Attempt ε α}
    (firstTotal : Total first) (secondTotal : Total second) :
    Total (if condition then first else second) := by
  by_cases holds : condition
  · rwa [if_pos holds]
  · rwa [if_neg holds]

theorem adapt {body : Attempt ε α} (total : Total body) (use : ε → η) : Total (body.adapt use) :=
  Action.Total.map total (Except.mapError use)

end Total

def Sure (body : Attempt ε α) : Prop :=
  ∀ world, ∃ value after, body.run world = .ok (.ok value) after

namespace Sure

protected theorem pure (value : α) : Sure (pure value : Attempt ε α) :=
  fun world => ⟨value, world, rfl⟩

theorem lift {body : Action α} (total : Action.Total body) :
    Sure (liftM body : Attempt ε α) := by
  intro world
  obtain ⟨value, after, run⟩ := total world
  exact ⟨value, after, lift_run_ok run⟩

theorem bind {first : Attempt ε α} {next : α → Attempt ε β} (firstSure : Sure first)
    (nextSure : ∀ value, Sure (next value)) : Sure (first >>= next) := by
  intro world
  obtain ⟨between, middle, atFirst⟩ := firstSure world
  obtain ⟨value, after, later⟩ := nextSure between middle
  exact ⟨value, after, (bind_run_ok atFirst).trans later⟩

theorem forM (items : List β) {step : β → Attempt ε PUnit}
    (sure : ∀ item ∈ items, Sure (step item)) : Sure (items.forM step) := by
  induction items with
  | nil => exact Sure.pure PUnit.unit
  | cons first rest ih =>
      exact (sure first List.mem_cons_self).bind fun _ =>
        ih fun item member => sure item (List.mem_cons_of_mem _ member)

end Sure

end Attempt

/-! ### Layers -/

theorem Layer.keepingSuccess_total (refuse : DispatchError → ε) {body : Action (Except ε α)}
    (total : Action.Total body) : Action.Total (keepingSuccess refuse body) := by
  have entered : Action.Total (within Except.isOk body) := by
    intro world
    rw [within_run]
    by_cases full : limit ≤ level world.store
    · rw [if_pos full]
      exact ⟨none, world, rfl⟩
    · obtain ⟨value, after, run⟩ := total { world with store := (raised world.store).openLayer }
      rw [if_neg full, run]
      exact ⟨some value, _, rfl⟩
  refine entered.bind fun outcome => ?_
  cases outcome with
  | none => exact Action.Total.pure (Except.error (refuse (.layer .limitReached)) : Except ε α)
  | some answer => exact Action.Total.pure answer

theorem Call.layered_total {body : Attempt DispatchError PostInfo} (total : Attempt.Total body) :
    Action.Total (layered body) :=
  Layer.keepingSuccess_total _ (total.adapt _)

end StateTransition
