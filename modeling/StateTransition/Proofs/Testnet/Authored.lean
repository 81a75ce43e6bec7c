import StateTransition.Proofs.Testnet.Authoring
import StateTransition.Proofs.Testnet.Included

set_option autoImplicit false

/-! A block that is authored, taken apart. It begins, its candidates are applied one after the other,
and it is sealed; what is known of the state is handed on from each candidate that passes to the
next. -/

namespace StateTransition.Testnet

open Item (Under under_head under_row not_under_head)

/-- The candidates that were not rejected, with the results of their calls. -/
def passed (candidates : List Extrinsic) (outcomes : List ApplyOutcome) :
    List (Extrinsic × Except DispatchError Unit) :=
  (candidates.zip outcomes).filterMap fun (candidate, outcome) =>
    outcome.toOption.map (candidate, ·)

@[simp] theorem passed_nil (outcomes : List ApplyOutcome) : passed [] outcomes = [] := rfl

@[simp] theorem passed_rejected (candidate : Extrinsic) (candidates : List Extrinsic)
    (cause : Rejection) (outcomes : List ApplyOutcome) :
    passed (candidate :: candidates) (.error cause :: outcomes) = passed candidates outcomes := rfl

@[simp] theorem passed_ok (candidate : Extrinsic) (candidates : List Extrinsic)
    (result : Except DispatchError Unit) (outcomes : List ApplyOutcome) :
    passed (candidate :: candidates) (.ok result :: outcomes) =
      (candidate, result) :: passed candidates outcomes := rfl

/-- What was taken into a block: an extrinsic with the result of its call, and the world in which it was
applied. -/
structure Taken where
  extrinsic : Extrinsic
  result : Except DispatchError Unit
  before : World

def Taken.item (taken : Taken) : Extrinsic × Except DispatchError Unit :=
  (taken.extrinsic, taken.result)

/-- What is taken of candidates that are applied one after the other. -/
def taken : List Extrinsic → World → List Taken
  | [], _ => []
  | candidate :: others, world =>
      match Entry.applyExtrinsic candidate world with
      | .ok (.ok result) after => ⟨candidate, result, world⟩ :: taken others after
      | .ok (.error _) after => taken others after
      | .error _ _ => []

section

variable {candidate : Extrinsic} {others : List Extrinsic} {world after : World}

private theorem taken_ok {result : Except DispatchError Unit}
    (run : Entry.applyExtrinsic candidate world = .ok (.ok result) after) :
    taken (candidate :: others) world = ⟨candidate, result, world⟩ :: taken others after := by
  rw [taken, run]

private theorem taken_rejected {cause : Rejection}
    (run : Entry.applyExtrinsic candidate world = .ok (.error cause) after) :
    taken (candidate :: others) world = taken others after := by
  rw [taken, run]

end

/-! ### The stages of a block -/

section

variable {header found : Header Number} {candidates : List Extrinsic}
variable {outcomes : List ApplyOutcome} {before after : World}

theorem author_eq_ok (run : author header candidates before = .ok (found, outcomes) after) :
    ∃ begun applied, chain.begin header before = .ok () begun ∧
      Entry.applyEach candidates begun = .ok outcomes applied ∧
      chain.finish applied = .ok found after := by
  obtain ⟨_, begun, begins, builds⟩ := Action.bind_eq_ok run
  obtain ⟨each, applied, applies, finishes⟩ := Action.bind_eq_ok builds
  obtain ⟨sealed, ended, seals, ends⟩ := Action.bind_eq_ok finishes
  cases ends
  exact ⟨begun, applied, begins, applies, seals⟩

section

variable (holds : List Taken → Store → Prop)
variable (seen : ∀ items {before after}, after.visible = before.visible → holds items before →
  holds items after)
variable (includes : ∀ items {extrinsic outcome} {before inside : World},
  Included extrinsic outcome before.layered inside → holds items before.store →
    holds (items ++ [⟨extrinsic, outcome.plain, before⟩]) inside.store)

include seen includes

private theorem applyEach_extends {items : List Taken}
    (run : Entry.applyEach candidates before = .ok outcomes after) (held : holds items before.store) :
    holds (items ++ taken candidates before) after.store := by
  induction candidates generalizing before outcomes items with
  | nil =>
      cases run
      rw [taken, List.append_nil]
      exact held
  | cons candidate others ih =>
      obtain ⟨outcome, middle, atFirst, afterFirst⟩ := Action.bind_eq_ok run
      obtain ⟨rest, ended, atOthers, finished⟩ := Action.bind_eq_ok afterFirst
      cases finished
      cases outcome with
      | error cause =>
          rw [← Entry.store_of_rejected atFirst] at held
          rw [taken_rejected atFirst]
          exact ih atOthers held
      | ok result =>
          obtain ⟨inside, ran, looks, _⟩ := Entry.included_run atFirst
          obtain ⟨outcome, rfl, ⟨included⟩⟩ := included_of_run ran
          have kept := ih atOthers (seen _ looks (includes _ included held))
          rwa [List.append_assoc, List.singleton_append, ← taken_ok atFirst] at kept

/-- What holds of the state and of what was taken into the block so far, and looks at no more than what
is visible, holds in the end if it is kept by everything that is included. -/
theorem applyEach_takes (run : Entry.applyEach candidates before = .ok outcomes after)
    (held : holds [] before.store) : holds (taken candidates before) after.store := by
  have extended : holds ([] ++ taken candidates before) after.store :=
    applyEach_extends holds seen includes run held
  exact extended

end

theorem taken_passed (run : Entry.applyEach candidates before = .ok outcomes after) :
    (taken candidates before).map Taken.item = passed candidates outcomes := by
  induction candidates generalizing before outcomes with
  | nil =>
      cases run
      rfl
  | cons candidate others ih =>
      obtain ⟨outcome, middle, atFirst, afterFirst⟩ := Action.bind_eq_ok run
      obtain ⟨rest, ended, atOthers, finished⟩ := Action.bind_eq_ok afterFirst
      cases finished
      cases outcome with
      | error cause =>
          rw [taken_rejected atFirst, passed_rejected]
          exact ih atOthers
      | ok result =>
          rw [taken_ok atFirst, passed_ok, List.map_cons, ih atOthers]
          rfl

section

variable (holds : List (Extrinsic × Except DispatchError Unit) → Store → Prop)
variable (seen : ∀ items {before after}, after.visible = before.visible → holds items before →
  holds items after)
variable (includes : ∀ items {extrinsic outcome} {before after : World},
  Included extrinsic outcome before after → holds items before.store →
    holds (items ++ [(extrinsic, outcome.plain)]) after.store)

include seen includes

/-- The same where the states in between do not matter. -/
theorem applyEach_keeps (run : Entry.applyEach candidates before = .ok outcomes after)
    (held : holds [] before.store) : holds (passed candidates outcomes) after.store := by
  rw [← taken_passed run]
  refine applyEach_takes (fun items => holds (items.map Taken.item)) (fun items => seen _) ?_ run held
  intro items extrinsic outcome before inside included held
  have layered := seen _ (Store.visible_openLayer before.store) held
  have kept := includes _ included layered
  rw [List.map_append]
  exact kept

end

theorem applyEach_length (run : Entry.applyEach candidates before = .ok outcomes after) :
    outcomes.length = candidates.length := by
  induction candidates generalizing before outcomes with
  | nil =>
      cases run
      rfl
  | cons candidate others ih =>
      obtain ⟨outcome, middle, _, afterFirst⟩ := Action.bind_eq_ok run
      obtain ⟨rest, ended, atOthers, finished⟩ := Action.bind_eq_ok afterFirst
      cases finished
      exact congrArg (· + 1) (ih atOthers)

end

theorem author_of_outcomes {header : Header Number} {candidates : List Extrinsic}
    {outcomes : List ApplyOutcome} {before : World}
    (answered : (Action.answer (author header candidates) before).map (·.2) = .ok outcomes) :
    ∃ found, author header candidates before =
      .ok (found, outcomes) (Action.ending (author header candidates) before) := by
  cases found : Action.answer (author header candidates) before with
  | error cause =>
      rw [found] at answered
      cases answered
  | ok answer =>
      rw [found] at answered
      cases answered
      exact ⟨answer.1, Action.run_of_answer_ok found⟩

/-! ### The stages of an included extrinsic -/

/-- What is written for an extrinsic before and after its call, beside its form and its place. -/
def chargeNames : List Item.Name :=
  [.account, .totalIssuance, .events, .eventCount, .blockWeight, .extrinsicsLength]

private theorem prepare_names (checked : CheckedExtrinsic AccountId Number Call)
    (info : DispatchInfo) (length : Nat) :
    Attempt.Local (Under chargeNames) (chain.prepare checked info length) := by
  unfold Chain.prepare
  cases checked.signer with
  | some signer =>
      exact Rules.prepareSigned_local (holdsRoom (by decide)) (holdsBooks (by decide) _) _ info
        length _
  | none =>
      refine (Rules.prepareBare_local (holdsRoom (by decide)) info length _).bind fun _ => ?_
      refine (Attempt.Local.mk (Action.Local.look (seen_admitUnsigned _))).bind fun _ => ?_
      exact Attempt.Local.pure none

private theorem settle_names (payment : Option (Payment AccountId)) (info : DispatchInfo)
    (post : PostInfo) (length : Nat) (failed : Bool) :
    Attempt.Local (Under chargeNames)
      (rules.settle payment info post length failed Check.all) :=
  Rules.settle_local (holdsRoom (by decide)) (fun paid _ => holdsBooks (by decide) paid.who)
    (fun _ => Action.Local.pure ()) info post length failed _

namespace Included

variable {extrinsic : Extrinsic} {outcome : DispatchOutcome} {before after : World}
variable (included : Included extrinsic outcome before after) {key : Bytes}

include included

theorem ready_spares (outside : ¬Under chargeNames key) :
    included.stages.ready.store.get? key =
      (Environment.noteExtrinsic (form.codec.encode extrinsic) before.store).get? key :=
  Action.Local.spared (prepare_names _ _ _) included.stages.prepares outside

theorem dispatched_spares (outside : ¬Under extrinsic.call.names key) :
    included.stages.dispatched.store.get? key = included.stages.ready.store.get? key :=
  (dispatch_names extrinsic.call (signer? extrinsic)).spared included.dispatched outside

theorem applied_spares (outside : ¬Under chargeNames key) :
    included.applied.store.get? key = included.stages.dispatched.store.get? key :=
  Action.Local.spared (settle_names _ _ _ _ _) included.stages.settles outside

theorem applied_noted (uncharged : ¬Under chargeNames key)
    (uncalled : ¬Under extrinsic.call.names key) :
    included.applied.store.get? key =
      (Environment.noteExtrinsic (form.codec.encode extrinsic) before.store).get? key :=
  ((included.applied_spares uncharged).trans (included.dispatched_spares uncalled)).trans
    (included.ready_spares uncharged)

theorem spares (outside : ¬Under writtenNames key) :
    after.store.get? key = before.store.get? key := by
  have apart : ∀ names : List Item.Name, (∀ name ∈ names, name ∈ writtenNames) → ¬Under names key :=
    fun names within under => outside (under.mono within)
  have written : ∀ name ∈ calledNames, name ∈ writtenNames := by decide
  exact (((noteApplied_names _ _).spared included.notes (apart _ (by decide))).trans
    (included.applied_noted (apart _ (by decide))
      (apart _ fun name member => written name (extrinsic.call.names_within name member)))).trans
    (Testnet.noted_spares _ before (apart _ (by decide)))

theorem ends : after.store = Environment.nextExtrinsic (rules.recordEvent []
    (rules.ending outcome (form.info extrinsic)) included.applied.store) := by
  have notes := included.notes
  rw [Rules.noteApplied_run] at notes
  injection notes with _ same
  exact congrArg World.store same.symm

end Included

theorem applyEach_spares {candidates : List Extrinsic} {outcomes : List ApplyOutcome}
    {before after : World} {key : Bytes} (outside : ¬Under writtenNames key)
    (run : Entry.applyEach candidates before = .ok outcomes after) :
    after.store.get? key = before.store.get? key := by
  refine applyEach_keeps (fun _ store => store.get? key = before.store.get? key) ?_ ?_ run rfl
  · intro _ left right same held
    exact (Store.seen_get? key _ _ same).trans held
  · intro _ _ _ left right included held
    exact (included.spares outside).trans held

end StateTransition.Testnet
