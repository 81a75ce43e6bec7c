import StateTransition.Chain.Block
import StateTransition.Proofs.Action
import StateTransition.Proofs.Weight

set_option autoImplicit false

/-! The stages of an extrinsic that is included in a block: it is checked and noted, its signer
pays, its call is dispatched, what is left to settle is settled, and its end is logged. -/

namespace StateTransition.Chain

variable {Account Number Call Form : Type} [DecidableEq Account] [Word Number]
variable {chain : Chain Account Number Call}
variable {form : ExtrinsicForm Account Number Call Form}

/-- The stages of a run of `Chain.apply` that is not refused. -/
structure Applied (chain : Chain Account Number Call)
    (extrinsic : CheckedExtrinsic Account Number Call) (info : DispatchInfo) (length : Nat)
    (before after : World) (outcome : DispatchOutcome) where
  payment : Option (Payment Account)
  ready : World
  dispatched : World
  prepares : (chain.prepare extrinsic info length).run before = .ok (.ok payment) ready
  dispatches :
    chain.dispatch extrinsic.call (.ofSigner (extrinsic.signer.map (·.1))) ready =
      .ok outcome dispatched
  settles : (chain.rules.settle payment info outcome.post length outcome.toOption.isNone
    Check.all).run dispatched = .ok (.ok ()) after

theorem applied_of_run {extrinsic : CheckedExtrinsic Account Number Call} {info : DispatchInfo}
    {length : Nat} {before after : World} {outcome : DispatchOutcome}
    (run : (chain.apply extrinsic info length).run before = .ok (.ok outcome) after) :
    Nonempty (chain.Applied extrinsic info length before after outcome) := by
  obtain ⟨payment, ready, prepares, run⟩ := Attempt.bind_eq_ok run
  obtain ⟨found, dispatched, dispatches, run⟩ := Attempt.bind_eq_ok run
  obtain ⟨_, settled, settles, run⟩ := Attempt.bind_eq_ok run
  obtain ⟨rfl, rfl⟩ := Attempt.pure_eq_ok run
  exact ⟨⟨payment, ready, dispatched, prepares, Attempt.lift_eq_ok dispatches, settles⟩⟩

/-- An extrinsic is included if it is applied and, where its call is mandatory, succeeds. -/
theorem applyExtrinsic_included {extrinsic : Form} {before after : World}
    {result : Except DispatchError Unit}
    (run : (chain.applyExtrinsic form extrinsic).run before = .ok (.ok result) after) :
    ∃ checked outcome applied,
      form.check extrinsic before.store = .ok (.ok checked) ∧
      (chain.apply checked (form.info extrinsic) (form.codec.encode extrinsic).length).run
        { before with store :=
          Environment.noteExtrinsic (form.codec.encode extrinsic) before.store } =
        .ok (.ok outcome) applied ∧
      ¬(outcome.toOption.isNone = true ∧ (form.info extrinsic).kind = .mandatory) ∧
      chain.rules.noteApplied outcome (form.info extrinsic) applied = .ok () after ∧
      result = outcome.plain := by
  obtain ⟨checked, middle, checks, fromCheck⟩ := Attempt.bind_eq_ok run
  obtain ⟨checksOut, same⟩ := Attempt.ask_eq_ok checks
  subst middle
  obtain ⟨_, noted, notes, fromNote⟩ := Attempt.bind_eq_ok fromCheck
  have noting := Attempt.lift_eq_ok notes
  rw [Action.change_run] at noting
  cases noting
  obtain ⟨outcome, applied, applies, fromApply⟩ := Attempt.bind_eq_ok fromNote
  refine ⟨checked, outcome, applied, checksOut, applies, ?_⟩
  by_cases refused : outcome.toOption.isNone = true ∧ (form.info extrinsic).kind = .mandatory
  · rw [if_pos refused] at fromApply
    obtain ⟨_, _, thrown, _⟩ := Attempt.bind_eq_ok fromApply
    cases thrown
  · rw [if_neg refused] at fromApply
    obtain ⟨_, _, logged, finishes⟩ := Attempt.bind_eq_ok fromApply
    obtain ⟨rfl, rfl⟩ := Attempt.pure_eq_ok finishes
    exact ⟨refused, Attempt.lift_eq_ok logged, rfl⟩

end StateTransition.Chain

namespace StateTransition.Rules

variable {Account Number : Type} (rules : Rules Account Number)

def ending (outcome : DispatchOutcome) (info : DispatchInfo) : Event Account :=
  match outcome with
  | .ok _ => .system (.extrinsicSuccess (rules.appliedInfo outcome info))
  | .error failure => .system (.extrinsicFailed failure.error (rules.appliedInfo outcome info))

/-- What the log reports of a call of which something was declared and something was found afterwards.
The weight is what was used, as far as it was declared, and the base weight of its class; and the call
pays if both say so. -/
structure Reports (declared : DispatchInfo) (found : PostInfo) (info : DispatchInfo) : Prop where
  kind : info.kind = declared.kind
  weight : ∀ dimension, info.weight.along dimension =
    min (min ((found.actual.getD declared.weight).along dimension) (declared.weight.along dimension) +
      (rules.weights.get declared.kind).baseExtrinsic.along dimension) 18446744073709551615
  pays : info.pays = .yes ↔ declared.pays = .yes ∧ found.pays = .yes

def Ends (declared : DispatchInfo) : DispatchOutcome → Event Account → Prop
  | .ok post, event => ∃ info, event = .system (.extrinsicSuccess info) ∧
      rules.Reports declared post info
  | .error failure, event => ∃ info, event = .system (.extrinsicFailed failure.error info) ∧
      rules.Reports declared failure.post info

private theorem appliedInfo_reports (outcome : DispatchOutcome) (declared : DispatchInfo) :
    rules.Reports declared outcome.post (rules.appliedInfo outcome declared) where
  kind := rfl
  weight dimension := by
    rw [← PostInfo.along_actualWeight]
    exact Weight.along_saturatingAdd _ _
  pays := by
    change outcome.post.finalPays declared = .yes ↔ _
    unfold PostInfo.finalPays
    cases declared.pays <;> cases outcome.post.pays <;> decide

theorem ending_ends (outcome : DispatchOutcome) (declared : DispatchInfo) :
    rules.Ends declared outcome (rules.ending outcome declared) := by
  cases outcome with
  | ok post => exact ⟨_, rfl, rules.appliedInfo_reports (.ok post) declared⟩
  | error failure => exact ⟨_, rfl, rules.appliedInfo_reports (.error failure) declared⟩

variable [DecidableEq Account] [Word Number]

theorem noteApplied_run (outcome : DispatchOutcome) (info : DispatchInfo) (world : World) :
    rules.noteApplied outcome info world = .ok () ⟨Environment.nextExtrinsic
      (rules.recordEvent [] (rules.ending outcome info) world.store), world.notes⟩ := by
  cases outcome <;> rfl

end StateTransition.Rules

namespace StateTransition.ExtrinsicForm

variable {Account Number Call Index Proof : Type} [Word Number]
variable {chain : Chain Account Number Call}

/-- A checked extrinsic has the call that was sent, and the signer whose address was signed with. -/
theorem verified_passes {index : Codec Index} {proof : Codec Proof}
    {verify : Proof → Bytes → Account → Bool}
    {extrinsic : Extrinsic (Address Account Index) Proof Number Call} {store : Store}
    {checked : CheckedExtrinsic Account Number Call}
    (passes : (verified chain index proof verify).check extrinsic store = .ok (.ok checked)) :
    checked.call = extrinsic.call ∧
      (extrinsic.signature = none ∧ checked.signer = none ∨
        ∃ signature who, extrinsic.signature = some signature ∧
          signature.place.resolve? = some who ∧ checked.signer = some (who, signature.terms)) := by
  obtain ⟨signature, call⟩ := extrinsic
  unfold verified at passes
  cases signature with
  | none =>
      cases passes
      exact ⟨rfl, Or.inl ⟨rfl, rfl⟩⟩
  | some signature =>
      dsimp only at passes
      cases resolved : signature.place.resolve? with
      | none =>
          rw [resolved] at passes
          cases passes
      | some who =>
          rw [resolved] at passes
          obtain ⟨context, signs, verifies⟩ := Query.bind_eq_ok passes
          cases context with
          | error cause => cases verifies
          | ok context =>
              by_cases valid : verify signature.proof (signedPayload (chain.callCodec.encode call)
                  signature.terms context) who = true
              · dsimp only at verifies
                rw [if_pos valid] at verifies
                cases verifies
                exact ⟨rfl, Or.inr ⟨signature, who, rfl, resolved, rfl⟩⟩
              · dsimp only at verifies
                rw [if_neg valid] at verifies
                cases verifies

end StateTransition.ExtrinsicForm
