import StateTransition.Proofs.Chain.Extrinsic
import StateTransition.Proofs.Testnet.Frame

set_option autoImplicit false

/-! Extrinsics from outside are applied in a layer of their own. Whatever has been written when an
extrinsic is rejected, by its checks, by its call or afterwards, goes with that layer. -/

namespace StateTransition

def World.layered (world : World) : World := { world with store := world.store.openLayer }

namespace Testnet.Entry

theorem applyExtrinsic_run (extrinsic : Extrinsic) (world : World) :
    applyExtrinsic extrinsic world =
      match (chain.applyExtrinsic form extrinsic).run world.layered with
      | .error cause after => .error cause after
      | .ok (.error cause) after => .ok (.error cause) { after with store := world.store }
      | .ok (.ok result) after =>
          .ok (.ok result) { after with store := after.store.keepLayer?.getD after.store } := by
  have isLocal : Action.Local _ (chain.applyExtrinsic form extrinsic).run :=
    Chain.applyExtrinsic_local extrinsicsLocal extrinsic
  have lies := isLocal.beneath world.layered
  unfold applyExtrinsic
  have opens : Action.change Store.openLayer world = .ok () world.layered := rfl
  rw [Action.bind_run_ok opens, Action.bind_run]
  cases ran : (chain.applyExtrinsic form extrinsic).run world.layered with
  | error cause after => rfl
  | ok outcome after =>
      rw [Action.ending_of_run ran] at lies
      cases outcome with
      | error cause =>
          have closes : Action.look Store.discardLayer? after = .ok (some world.store) after := by
            rw [Action.look_run, Store.discardLayer?_above lies]
          exact Action.bind_run_ok closes
      | ok result =>
          obtain ⟨kept, keeps, _, _⟩ := Store.keepLayer?_above lies
          have closes : Action.look Store.keepLayer? after = .ok (some kept) after := by
            rw [Action.look_run, keeps]
          dsimp only
          rw [keeps]
          exact Action.bind_run_ok closes

theorem store_of_rejected {extrinsic : Extrinsic} {world after : World} {cause : Rejection}
    (run : applyExtrinsic extrinsic world = .ok (.error cause) after) :
    after.store = world.store := by
  rw [applyExtrinsic_run] at run
  cases ran : (chain.applyExtrinsic form extrinsic).run world.layered with
  | error trap ended =>
      rw [ran] at run
      cases run
  | ok inner ended =>
      rw [ran] at run
      cases inner with
      | error rejection =>
          cases run
          rfl
      | ok result => cases run

theorem included_run {extrinsic : Extrinsic} {world after : World}
    {result : Except DispatchError Unit}
    (run : applyExtrinsic extrinsic world = .ok (.ok result) after) :
    ∃ ended, (chain.applyExtrinsic form extrinsic).run world.layered = .ok (.ok result) ended ∧
      after.store.visible = ended.store.visible ∧ after.store.beneath = world.store.beneath := by
  have isLocal : Action.Local _ (chain.applyExtrinsic form extrinsic).run :=
    Chain.applyExtrinsic_local extrinsicsLocal extrinsic
  have lies := isLocal.beneath world.layered
  rw [applyExtrinsic_run] at run
  cases ran : (chain.applyExtrinsic form extrinsic).run world.layered with
  | error trap ended =>
      rw [ran] at run
      cases run
  | ok inner ended =>
      rw [ran] at run
      rw [Action.ending_of_run ran] at lies
      cases inner with
      | error rejection => cases run
      | ok inside =>
          obtain ⟨kept, keeps, looks, below⟩ := Store.keepLayer?_above lies
          cases run
          refine ⟨ended, rfl, ?_, ?_⟩
          · rw [keeps]
            exact looks
          · rw [keeps]
            exact below

/-- An extrinsic that is rejected leaves the store as it was, whatever reads are made of it; one
that is not leaves no layer open; and a mandatory call is rejected if it fails. -/
theorem applyExtrinsic_rejected (extrinsic : Extrinsic) (world after : World)
    (outcome : ApplyOutcome) (run : applyExtrinsic extrinsic world = .ok outcome after) :
    (∀ cause, outcome = .error cause →
      after.store = world.store ∧ (∀ key, after.store.get? key = world.store.get? key) ∧
        after.store.root = world.store.root) ∧
    after.store.depth = world.store.depth ∧
    ((form.info extrinsic).kind = .mandatory → ∀ error, outcome ≠ .ok (.error error)) := by
  cases outcome with
  | error cause =>
      have unchanged := store_of_rejected run
      rw [unchanged]
      refine ⟨fun _ _ => ⟨rfl, fun _ => rfl, rfl⟩, rfl, ?_⟩
      intro _ error same
      cases same
  | ok result =>
      obtain ⟨ended, ran, _, below⟩ := included_run run
      refine ⟨?_, Store.depth_eq_of_beneath below, ?_⟩
      · intro cause same
        cases same
      · intro mandatory error failed
        obtain ⟨_, dispatched, _, _, _, allowed, _, plain⟩ := Chain.applyExtrinsic_included ran
        cases failed
        cases dispatched with
        | ok post => cases plain
        | error failure => exact allowed ⟨rfl, mandatory⟩

/-- A code that nobody has authorized is rejected after room was taken in the block for it. -/
theorem applyExtrinsic_rejected_bare_upgrade :
    ∃ after, applyExtrinsic ⟨none, .system (.applyUpgrade [])⟩ ⟨.empty, []⟩ =
        .ok (.error (.invalid .call)) after ∧ after.store = .empty := by
  have answered : Action.answer (applyExtrinsic ⟨none, .system (.applyUpgrade [])⟩) ⟨.empty, []⟩ =
      .ok (.error (.invalid .call)) := by decide +kernel
  have run := Action.run_of_answer_ok answered
  exact ⟨_, run, ((applyExtrinsic_rejected _ _ _ _ run).1 _ rfl).1⟩

end Testnet.Entry

end StateTransition
