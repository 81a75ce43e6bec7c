import StateTransition.Proofs.Total

set_option autoImplicit false

/-! Traps that a run does not end in, in whatever world it begins. A run may be total but for a few
traps; those that it avoids are avoided by whatever is put together from such runs. -/

namespace StateTransition

variable {α β ε η : Type} {cause : Trap}

/-! ### Division -/

def quotientOrTrap [Div α] [OfNat α 0] [DecidableEq α] (dividend divisor : α) : Except Trap α :=
  if divisor = 0 then .error .divisionByZero else .ok (dividend / divisor)

theorem quotientOrTrap_of_ne_zero [Div α] [OfNat α 0] [DecidableEq α] {dividend divisor : α}
    (some : divisor ≠ 0) : quotientOrTrap dividend divisor = .ok (dividend / divisor) :=
  if_neg some

theorem quotientOrTrap_bind [Div α] [OfNat α 0] [DecidableEq α] {dividend divisor : α}
    (some : divisor ≠ 0) (next : α → Except Trap β) :
    quotientOrTrap dividend divisor >>= next = next (dividend / divisor) := by
  rw [quotientOrTrap_of_ne_zero some]
  rfl

/-! ### Runs that avoid a trap -/

def Query.Avoids (cause : Trap) (query : Query α) : Prop := ∀ store, query store ≠ .error cause

namespace Query.Avoids

theorem look (view : Store → α) : Avoids cause (Query.look view) := nofun

theorem bind {first : Query α} {next : α → Query β} (firstAvoids : Avoids cause first)
    (nextAvoids : ∀ value, Avoids cause (next value)) : Avoids cause (first >>= next) := by
  intro store
  change Except.bind (first store) (fun value => next value store) ≠ _
  cases atFirst : first store with
  | ok value => exact nextAvoids value store
  | error other =>
      intro trapped
      cases trapped
      exact firstAvoids store atFirst

protected theorem pure (value : α) : Avoids cause (pure value : Query α) := nofun

end Query.Avoids

namespace Action

def Avoids (cause : Trap) (body : Action α) : Prop := ∀ world, answer body world ≠ .error cause

namespace Avoids

theorem of_total {body : Action α} (total : Total body) : Avoids cause body := by
  intro world trapped
  obtain ⟨value, after, run⟩ := total world
  rw [answer_of_run run] at trapped
  cases trapped

theorem trap {other : Trap} (different : other ≠ cause) :
    Avoids cause (Action.trap other : Action α) := by
  intro world trapped
  exact different (Except.error.inj trapped)

theorem ask {query : Query α} (avoids : query.Avoids cause) : Avoids cause (Action.ask query) := by
  intro world trapped
  apply avoids world.store
  rw [answer, ask_run] at trapped
  cases found : query world.store with
  | ok value =>
      rw [found] at trapped
      cases trapped
  | error other =>
      rw [found] at trapped
      exact trapped

theorem bind {first : Action α} {next : α → Action β} (firstAvoids : Avoids cause first)
    (nextAvoids : ∀ value, Avoids cause (next value)) : Avoids cause (first >>= next) := by
  intro world
  rw [bind_answer]
  cases atFirst : answer first world with
  | ok value => exact nextAvoids value _
  | error other =>
      intro trapped
      cases trapped
      exact firstAvoids world atFirst

theorem map {body : Action α} (avoids : Avoids cause body) (use : α → β) :
    Avoids cause (use <$> body) := by
  intro world
  rw [map_answer]
  cases found : answer body world with
  | ok value => nofun
  | error other =>
      intro trapped
      cases trapped
      exact avoids world found

theorem ite {condition : Prop} [Decidable condition] {first second : Action α}
    (firstAvoids : Avoids cause first) (secondAvoids : Avoids cause second) :
    Avoids cause (if condition then first else second) := by
  by_cases holds : condition
  · rwa [if_pos holds]
  · rwa [if_neg holds]

theorem forM (items : List β) {step : β → Action PUnit}
    (avoids : ∀ item ∈ items, Avoids cause (step item)) : Avoids cause (items.forM step) := by
  induction items with
  | nil => exact of_total (Total.pure PUnit.unit)
  | cons first rest ih =>
      exact (avoids first List.mem_cons_self).bind fun _ =>
        ih fun item member => avoids item (List.mem_cons_of_mem _ member)

end Avoids

end Action

namespace Attempt

/-- Refused or not, the attempt does not end in the trap. -/
def Avoids (cause : Trap) (body : Attempt ε α) : Prop := Action.Avoids cause body.run

namespace Avoids

theorem of_total {body : Attempt ε α} (total : Total body) : Avoids cause body :=
  Action.Avoids.of_total total

theorem ask {query : Query (Except ε α)} (avoids : query.Avoids cause) :
    Avoids cause (Attempt.ask query) :=
  Action.Avoids.ask avoids

theorem lift {body : Action α} (avoids : Action.Avoids cause body) :
    Avoids cause (liftM body : Attempt ε α) := by
  rw [Avoids, lift_run]
  exact avoids.bind fun value =>
    Action.Avoids.of_total (Action.Total.pure (Except.ok value : Except ε α))

theorem bind {first : Attempt ε α} {next : α → Attempt ε β} (firstAvoids : Avoids cause first)
    (nextAvoids : ∀ value, Avoids cause (next value)) : Avoids cause (first >>= next) := by
  rw [Avoids, bind_run]
  refine Action.Avoids.bind firstAvoids fun outcome => ?_
  cases outcome with
  | ok value => exact nextAvoids value
  | error refusal =>
      exact Action.Avoids.of_total (Action.Total.pure (Except.error refusal : Except ε β))

theorem ite {condition : Prop} [Decidable condition] {first second : Attempt ε α}
    (firstAvoids : Avoids cause first) (secondAvoids : Avoids cause second) :
    Avoids cause (if condition then first else second) := by
  by_cases holds : condition
  · rwa [if_pos holds]
  · rwa [if_neg holds]

theorem adapt {body : Attempt ε α} (avoids : Avoids cause body) (use : ε → η) :
    Avoids cause (body.adapt use) :=
  Action.Avoids.map avoids (Except.mapError use)

theorem forM (items : List β) {step : β → Attempt ε PUnit}
    (avoids : ∀ item ∈ items, Avoids cause (step item)) : Avoids cause (items.forM step) := by
  induction items with
  | nil => exact of_total (Total.pure PUnit.unit)
  | cons first rest ih =>
      exact (avoids first List.mem_cons_self).bind fun _ =>
        ih fun item member => avoids item (List.mem_cons_of_mem _ member)

end Avoids

end Attempt

/-! ### Layers -/

theorem Layer.keepingSuccess_avoids (refuse : DispatchError → ε) {body : Action (Except ε α)}
    (avoids : Action.Avoids cause body) : Action.Avoids cause (keepingSuccess refuse body) := by
  have entered : Action.Avoids cause (within Except.isOk body) := by
    intro world
    rw [within_answer]
    by_cases full : limit ≤ level world.store
    · rw [if_pos full]
      nofun
    · rw [if_neg full]
      intro trapped
      cases found : Action.answer body (enteredWorld world) with
      | ok value =>
          rw [found] at trapped
          cases trapped
      | error other =>
          rw [found] at trapped
          cases trapped
          exact avoids _ found
  refine entered.bind fun outcome => ?_
  cases outcome with
  | none =>
      exact Action.Avoids.of_total
        (Action.Total.pure (Except.error (refuse (.layer .limitReached)) : Except ε α))
  | some answer => exact Action.Avoids.of_total (Action.Total.pure answer)

theorem Call.layered_avoids {body : Attempt DispatchError PostInfo}
    (avoids : Attempt.Avoids cause body) : Action.Avoids cause (layered body) :=
  Layer.keepingSuccess_avoids _ (avoids.adapt _)

end StateTransition
