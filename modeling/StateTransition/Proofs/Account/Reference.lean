import StateTransition.Proofs.Account.Record
import StateTransition.Proofs.Action

set_option autoImplicit false

/-! How operations on references run. Each of them writes the record of its account once; then, if
that brings the account into being or ends it, what else follows is done and it is logged. -/

namespace StateTransition

inductive Turn where
  | appears
  | vanishes
deriving DecidableEq

def Arrival.turn? : Arrival → Option Turn
  | .created => some .appears
  | .existed => none

/-- A reference given up that is the end of an account, if there was one. -/
def Departure.turn? (recorded : Bool) : Departure → Option Turn
  | .reaped => if recorded then some .vanishes else none
  | .exists => none

namespace Rules

variable {Account Number : Type} [DecidableEq Account] [Word Number]
variable {rules : Rules Account Number} {who : Account} {world after : World}

/-- What follows when a record comes into being or is gone. -/
def turned (rules : Rules Account Number) (who : Account) : Option Turn → Action Unit
  | none => pure ()
  | some .appears => rules.afterCreation who
  | some .vanishes => rules.afterDeath who

/-- When a record comes into being those who wait for new accounts are told first, and then it is
logged; when it is gone, those who wait for the end of accounts. Else nothing happens. -/
def Announced (rules : Rules Account Number) (who : Account) (world after : World) :
    Option Turn → Prop
  | none => after = world
  | some .appears => ∃ told, rules.accountCreated who world = .ok () told ∧
      after = ⟨rules.recordEvent [] (.system (.newAccount who)) told.store, told.notes⟩
  | some .vanishes => ∃ told, rules.accountKilled who world = .ok () told ∧
      after = ⟨rules.recordEvent [] (.system (.killedAccount who)) told.store, told.notes⟩

theorem announced_of_turned {turn : Option Turn}
    (run : rules.turned who turn world = .ok () after) : rules.Announced who world after turn := by
  rcases turn with _ | _ | _
  · cases run
    rfl
  · obtain ⟨_, told, hooks, deposits⟩ := Action.bind_eq_ok run
    cases deposits
    exact ⟨told, hooks, rfl⟩
  · obtain ⟨_, told, hooks, deposits⟩ := Action.bind_eq_ok run
    cases deposits
    exact ⟨told, hooks, rfl⟩

/-- Whether there is a record of an account that can be read. -/
def recorded (rules : Rules Account Number) (who : Account) (store : Store) : Bool :=
  ((rules.accountSlot who).stored? store).isSome

omit [DecidableEq Account] in
theorem accountInfo_eq (store : Store) :
    rules.accountInfo who store = ((rules.accountSlot who).stored? store).getD .blank := rfl

/-! ### Gaining references -/

private theorem settleArrival_stages {arrival result : Arrival}
    (run : rules.settleArrival who arrival world = .ok result after) :
    result = arrival ∧ rules.turned who arrival.turn? world = .ok () after := by
  cases arrival with
  | existed =>
      cases run
      exact ⟨rfl, rfl⟩
  | created =>
      obtain ⟨_, noted, creates, finishes⟩ := Action.bind_eq_ok run
      cases finishes
      exact ⟨rfl, creates⟩

theorem incrementProviders_stages {arrival : Arrival}
    (run : rules.incrementProviders who world = .ok arrival after) :
    arrival = (rules.accountInfo who world.store).withProvider.1 ∧
      rules.turned who arrival.turn?
        ⟨(rules.accountSlot who).put (rules.accountInfo who world.store).withProvider.2 world.store,
          world.notes⟩ = .ok () after := by
  obtain ⟨_, written, writes, settles⟩ := Action.bind_eq_ok run
  cases writes
  obtain ⟨rfl, turns⟩ := settleArrival_stages settles
  exact ⟨rfl, turns⟩

theorem incrementSufficients_stages {arrival : Arrival}
    (run : rules.incrementSufficients who world = .ok arrival after) :
    arrival = (rules.accountInfo who world.store).withSufficient.1 ∧
      rules.turned who arrival.turn?
        ⟨(rules.accountSlot who).put (rules.accountInfo who world.store).withSufficient.2
          world.store, world.notes⟩ = .ok () after := by
  obtain ⟨_, written, writes, settles⟩ := Action.bind_eq_ok run
  cases writes
  obtain ⟨rfl, turns⟩ := settleArrival_stages settles
  exact ⟨rfl, turns⟩

omit [DecidableEq Account] in
theorem incrementConsumers_stages {outcome : Except DispatchError Unit}
    (run : rules.incrementConsumers who world = .ok outcome after) :
    (∃ info, (rules.accountInfo who world.store).withConsumer = .ok info ∧ outcome = .ok () ∧
      after = ⟨(rules.accountSlot who).put info world.store, world.notes⟩) ∨
      ∃ cause, (rules.accountInfo who world.store).withConsumer = .error cause ∧
        outcome = .error cause ∧ after = world := by
  have read : (rules.accountSlot who).get world.store = rules.accountInfo who world.store := rfl
  rw [incrementConsumers, Action.update_run, Slot.tryModify, read] at run
  cases given : (rules.accountInfo who world.store).withConsumer with
  | error cause =>
      rw [given] at run
      cases run
      exact Or.inr ⟨cause, rfl, rfl, rfl⟩
  | ok info =>
      rw [given] at run
      cases run
      exact Or.inl ⟨info, rfl, rfl, rfl⟩

/-! ### Giving up references -/

/-- The store in which a provider has left an account, if it can leave. -/
def unprovided (rules : Rules Account Number) (who : Account) (store : Store) : Store :=
  match (rules.accountInfo who store).withoutProvider with
  | .ok (_, rest) => store.writeOption (rules.accountSlot who).codec (rules.accountSlot who).key rest
  | .error _ => store

/-- What cannot be read of an account counts as no provider. -/
theorem decrementProviders_stages {outcome : Except DispatchError Departure}
    (run : rules.decrementProviders who world = .ok outcome after) :
    outcome = (rules.accountInfo who world.store).withoutProvider.map (·.1) ∧
      rules.turned who
        (outcome.toOption.bind (Departure.turn? (rules.recorded who world.store)))
        ⟨rules.unprovided who world.store, world.notes⟩ = .ok () after := by
  have looked := Action.look_bind run
  obtain ⟨found, written, updates, settles⟩ := Action.bind_eq_ok looked
  have writes : Action.update ((rules.accountSlot who).tryModifyStored fun stored =>
      (stored.getD .blank).withoutProvider) world = .ok found written := by
    rw [← updates]
    congr 2
    funext stored
    cases stored <;> rfl
  rw [Action.update_run, Slot.tryModifyStored, ← accountInfo_eq] at writes
  rw [← recorded] at settles
  unfold unprovided
  rcases AccountInfo.withoutProvider_cases (rules.accountInfo who world.store) with
    ⟨stays, _⟩ | ⟨reaped, _⟩ | ⟨rest, lives, _⟩
  · rw [stays] at writes ⊢
    cases writes
    cases settles
    exact ⟨rfl, rfl⟩
  · rw [reaped] at writes ⊢
    cases writes
    cases existed : rules.recorded who world.store with
    | false =>
        rw [existed] at settles
        cases settles
        exact ⟨rfl, rfl⟩
    | true =>
        rw [existed] at settles
        obtain ⟨_, ended, dies, finishes⟩ := Action.bind_eq_ok settles
        cases finishes
        exact ⟨rfl, dies⟩
  · rw [lives] at writes ⊢
    cases writes
    cases settles
    exact ⟨rfl, rfl⟩

theorem decrementProviders_refused {cause : DispatchError}
    (run : rules.decrementProviders who world = .ok (.error cause) after) :
    (rules.accountInfo who world.store).withoutProvider = .error cause ∧ after = world := by
  obtain ⟨answered, turns⟩ := decrementProviders_stages run
  cases left : (rules.accountInfo who world.store).withoutProvider with
  | ok departed =>
      rw [left] at answered
      cases answered
  | error refusal =>
      rw [left] at answered
      cases answered
      rw [unprovided, left] at turns
      cases turns
      exact ⟨rfl, rfl⟩

theorem decrementSufficients_stages {departure : Departure}
    (run : rules.decrementSufficients who world = .ok departure after) :
    departure = (rules.accountInfo who world.store).withoutSufficient.1 ∧
      rules.turned who (departure.turn? (rules.recorded who world.store))
        ⟨world.store.writeOption (rules.accountSlot who).codec (rules.accountSlot who).key
          (rules.accountInfo who world.store).withoutSufficient.2, world.notes⟩ = .ok () after := by
  have looked := Action.look_bind run
  obtain ⟨found, written, updates, settles⟩ := Action.bind_eq_ok looked
  have writes : Action.update ((rules.accountSlot who).modifyStored fun stored =>
      (stored.getD .blank).withoutSufficient) world = .ok found written := by
    rw [← updates]
    congr 2
    funext stored
    cases stored <;> rfl
  rw [Action.update_run, Slot.modifyStored, ← accountInfo_eq] at writes
  rw [← recorded] at settles
  cases writes
  generalize (rules.accountInfo who world.store).withoutSufficient.1 = departed at settles ⊢
  by_cases dead : departed = .reaped ∧ rules.recorded who world.store = true
  · rw [if_pos dead] at settles
    obtain ⟨_, ended, dies, finishes⟩ := Action.bind_eq_ok settles
    cases finishes
    rw [dead.1, dead.2]
    exact ⟨rfl, dies⟩
  · rw [if_neg dead] at settles
    cases settles
    refine ⟨rfl, ?_⟩
    cases departure with
    | «exists» => rfl
    | reaped =>
        have absent : rules.recorded who world.store = false :=
          Bool.eq_false_iff.mpr fun present => dead ⟨rfl, present⟩
        rw [absent]
        rfl

end Rules

end StateTransition
