import StateTransition.Account.Balance
import StateTransition.Proofs.Total

set_option autoImplicit false

/-! Operations on accounts never end in a trap: what cannot be done is refused. A trap can come
only from what else the creation and the death of an account bring about. -/

namespace StateTransition.Rules

variable {ρ : Type} {Account Number : Type} [DecidableEq Account] [Word Number]
variable {rules : Rules Account Number} {who source target : Account}

/-- What else happens when accounts come into being and die does not end in a trap. -/
structure SafeLives (rules : Rules Account Number) : Prop where
  created : ∀ who, Action.Total (rules.accountCreated who)
  killed : ∀ who, Action.Total (rules.accountKilled who)

theorem deposit_total (event : Event Account) : Action.Total (rules.deposit event) :=
  Action.Total.change _

/-! ### References -/

private theorem settleArrival_total (lives : rules.SafeLives) (arrival : Arrival) :
    Action.Total (rules.settleArrival who arrival) := by
  cases arrival with
  | existed => exact Action.Total.pure Arrival.existed
  | created =>
      exact ((lives.created who).bind fun _ => deposit_total _).bind fun _ =>
        Action.Total.pure Arrival.created

theorem incrementProviders_total (lives : rules.SafeLives) :
    Action.Total (rules.incrementProviders who) :=
  (Action.Total.update _).bind (settleArrival_total lives)

theorem incrementSufficients_total (lives : rules.SafeLives) :
    Action.Total (rules.incrementSufficients who) :=
  (Action.Total.update _).bind (settleArrival_total lives)

theorem decrementProviders_total (lives : rules.SafeLives) :
    Action.Total (rules.decrementProviders who) := by
  have death : Action.Total (rules.afterDeath who) :=
    (lives.killed who).bind fun _ => deposit_total _
  refine (Action.Total.look _).bind fun existed => ?_
  refine (Action.Total.update _).bind fun outcome => ?_
  rcases outcome with cause | ⟨_ | _⟩
  · exact Action.Total.pure _
  · cases existed with
    | false => exact Action.Total.pure _
    | true => exact death.bind fun _ => Action.Total.pure _
  · exact Action.Total.pure _

theorem decrementSufficients_total (lives : rules.SafeLives) :
    Action.Total (rules.decrementSufficients who) := by
  have death : Action.Total (rules.afterDeath who) :=
    (lives.killed who).bind fun _ => deposit_total _
  refine (Action.Total.look _).bind fun existed => ?_
  refine (Action.Total.update _).bind fun outcome => ?_
  exact Action.Total.ite (death.bind fun _ => Action.Total.pure outcome) (Action.Total.pure outcome)

/-! ### Balances -/

private theorem changeIssuance_total (change : Balance → Balance) :
    Action.Total (changeIssuance change) :=
  Action.Total.update _

private theorem settleFree_total (lives : rules.SafeLives) (isNew : Bool) (free : Balance) :
    Attempt.Total (rules.settleFree who isNew free) := by
  have written : ∀ kept, Action.Total (Action.change (rules.putFree who kept)) := fun kept =>
    Action.Total.change _
  unfold settleFree
  cases isNew with
  | true =>
      cases free == 0 with
      | true => exact Attempt.Total.pure ()
      | false =>
          refine (Attempt.Total.lift (incrementProviders_total lives)).bind fun _ => ?_
          refine (Attempt.Total.lift (written _)).bind fun _ => ?_
          exact Attempt.Total.lift (deposit_total _)
  | false =>
      cases free == 0 with
      | false => exact Attempt.Total.lift (written _)
      | true =>
          refine (Attempt.Total.look _).bind fun info => ?_
          refine (Attempt.Total.demand _ _).bind fun _ => ?_
          refine (Attempt.Total.lift (written none)).bind fun _ => ?_
          refine (Attempt.Total.mk (decrementProviders_total lives)).bind fun _ => ?_
          exact Attempt.Total.pure PUnit.unit

private theorem tryChangeFree_total (lives : rules.SafeLives)
    (change : Balance → Bool → Except DispatchError (ρ × Balance)) :
    Attempt.Total (rules.tryChangeFree who change) := by
  refine (Attempt.Total.look _).bind fun before => ?_
  refine (Attempt.Total.liftExcept _).bind fun ⟨result, wanted⟩ => ?_
  dsimp only
  rcases rules.withoutDust wanted with ⟨kept, _ | lost⟩
  · exact (settleFree_total lives _ kept).bind fun _ => Attempt.Total.pure _
  · refine (settleFree_total lives _ kept).bind fun _ => ?_
    refine (Attempt.Total.lift (changeIssuance_total _)).bind fun _ => ?_
    exact (Attempt.Total.lift (deposit_total _)).bind fun _ => Attempt.Total.pure _

theorem setFree_total (lives : rules.SafeLives) (free : Balance) :
    Attempt.Total (rules.setFree who free) :=
  (tryChangeFree_total lives _).bind fun _ => Attempt.Total.pure PUnit.unit

theorem transfer_total (lives : rules.SafeLives) (amount : Balance) (existence : Existence) :
    Attempt.Total (rules.transfer source target amount existence) := by
  refine Attempt.Total.ite (Attempt.Total.pure ()) ?_
  refine (Attempt.Total.look _).bind fun atSource => ?_
  refine (Attempt.Total.liftExcept _).bind fun sourceFree => ?_
  refine (Attempt.Total.look _).bind fun atTarget => ?_
  refine (Attempt.Total.liftExcept _).bind fun targetFree => ?_
  refine (Attempt.Total.demand _ _).bind fun _ => ?_
  refine (Attempt.Total.demand _ _).bind fun _ => ?_
  refine (Attempt.Total.look _).bind fun info => ?_
  refine (Attempt.Total.demand _ _).bind fun _ => ?_
  refine (setFree_total lives sourceFree).bind fun _ => ?_
  refine (setFree_total lives targetFree).bind fun _ => ?_
  exact Attempt.Total.lift (deposit_total _)

theorem createInExisting_total (lives : rules.SafeLives) (amount : Balance) :
    Attempt.Total (rules.createInExisting who amount) := by
  have noted : Action.Total (rules.noteCreated who amount) :=
    (changeIssuance_total _).bind fun _ => deposit_total _
  refine Attempt.Total.ite (Attempt.Total.pure 0) ?_
  refine (tryChangeFree_total lives _).bind fun _ => ?_
  exact (Attempt.Total.lift noted).bind fun _ => Attempt.Total.pure amount

theorem withdraw_total (lives : rules.SafeLives) (amount : Balance) (existence : Existence) :
    Attempt.Total (rules.withdraw who amount existence) := by
  refine Attempt.Total.ite (Attempt.Total.pure 0) ?_
  refine (Attempt.Total.look _).bind fun free => ?_
  refine (Attempt.Total.liftExcept _).bind fun rest => ?_
  refine (tryChangeFree_total lives _).bind fun _ => ?_
  refine (Attempt.Total.lift (changeIssuance_total _)).bind fun _ => ?_
  exact (Attempt.Total.lift (deposit_total _)).bind fun _ => Attempt.Total.pure amount

end StateTransition.Rules
