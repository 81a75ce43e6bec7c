import StateTransition.Proofs.Account.Total
import StateTransition.Proofs.Call
import StateTransition.Proofs.Chain.Extrinsic

set_option autoImplicit false

/-! Once a transaction has passed its checks nothing can keep it from being included: its call, the
settling of its fee and its place in the log end without a trap, and none of them rejects it. What
the chain makes happen beside them has to be as safe. -/

namespace StateTransition

variable {Account Number Call Form Index α : Type} [Word Number]

theorem Attempt.Total.requireRoot (signer : Option Account)
    (next : Unit → Attempt DispatchError α) :
    Attempt.Total
      ((liftM (Origin.ofSigner signer).requireRoot : Attempt DispatchError Unit) >>= next) := by
  rw [Origin.requireRoot_bind]
  exact Attempt.Total.throw _

variable [DecidableEq Account]

namespace Rules

variable {rules : Rules Account Number}

/-! ### Calls -/

private theorem setCode_total (code : Bytes) : Action.Total (rules.setCode code) :=
  (Action.Total.change _).bind fun _ => (Action.Total.change _).bind fun _ => deposit_total _

theorem runSystemCall_total (signer : Option Account) (call : SystemCall) :
    Attempt.Total (rules.runSystemCall (.ofSigner signer) call) := by
  cases call with
  | remark text => exact (Attempt.Total.liftExcept _).bind fun _ => Attempt.Total.pure _
  | remarkWithEvent text =>
      refine (Attempt.Total.liftExcept _).bind fun who => ?_
      exact (Attempt.Total.lift (deposit_total _)).bind fun _ => Attempt.Total.pure _
  | applyUpgrade code =>
      refine (Attempt.Total.mk (Action.Total.look _)).bind fun _ => ?_
      refine (Attempt.Total.lift (Action.Total.change _)).bind fun _ => ?_
      exact (Attempt.Total.lift (setCode_total code)).bind fun _ => Attempt.Total.pure _
  | setCode code => exact Attempt.Total.requireRoot signer _
  | setStorage items => exact Attempt.Total.requireRoot signer _
  | killStorage removed => exact Attempt.Total.requireRoot signer _
  | killUnder head subkeys => exact Attempt.Total.requireRoot signer _
  | authorizeUpgrade hash => exact Attempt.Total.requireRoot signer _

theorem runBalanceCall_total (lives : rules.SafeLives) (signer : Option Account)
    (call : BalanceCall (Address Account Index)) :
    Attempt.Total (rules.runBalanceCall (.ofSigner signer) call) := by
  cases call with
  | transferAllowDeath target amount =>
      refine (Attempt.Total.liftExcept _).bind fun source => ?_
      refine (Attempt.Total.liftExcept _).bind fun target => ?_
      exact (transfer_total lives amount _).bind fun _ => Attempt.Total.pure _
  | transferKeepAlive target amount =>
      refine (Attempt.Total.liftExcept _).bind fun source => ?_
      refine (Attempt.Total.liftExcept _).bind fun target => ?_
      exact (transfer_total lives amount _).bind fun _ => Attempt.Total.pure _
  | forceTransfer source target amount => exact Attempt.Total.requireRoot signer _
  | forceSetBalance who free => exact Attempt.Total.requireRoot signer _

/-! ### After the call -/

variable {payment : Option (Payment Account)} {info : DispatchInfo} {post : PostInfo}
variable {length : Nat} {failed : Bool}

theorem settlePayment_total (lives : rules.SafeLives)
    (passed : ∀ amount, Action.Total (rules.feesTaken amount)) (paid : Payment Account) :
    Action.Total (rules.settlePayment paid info post length) := by
  have corrected : ∀ actual, Action.Total (rules.correctFee paid actual) := by
    intro actual
    unfold correctFee
    cases paid.paid with
    | none => exact Action.Total.pure ()
    | some amount =>
        have refunded : Action.Total (rules.createInExisting paid.who
            (Word.saturatingSub amount actual)).run := createInExisting_total lives _
        exact refunded.bind fun outcome => (passed _).bind fun _ => passed _
  refine (Action.Total.look _).bind fun actual => ?_
  exact (corrected actual).bind fun _ => deposit_total _

theorem settle_sure (lives : rules.SafeLives)
    (passed : ∀ amount, Action.Total (rules.feesTaken amount))
    (allowed : ¬(info.kind = .mandatory ∧ failed = true)) (checks : List Check) :
    Attempt.Sure (rules.settle payment info post length failed checks) := by
  apply Attempt.Sure.forM
  intro check _
  cases check with
  | weight =>
      unfold settleCheck
      dsimp only
      rw [if_neg allowed]
      exact Attempt.Sure.lift (Action.Total.change _)
  | payment =>
      cases payment with
      | none => exact Attempt.Sure.pure ()
      | some paid => exact Attempt.Sure.lift (settlePayment_total lives passed paid)
  | sender => exact Attempt.Sure.pure ()
  | specVersion => exact Attempt.Sure.pure ()
  | transactionVersion => exact Attempt.Sure.pure ()
  | genesis => exact Attempt.Sure.pure ()
  | mortality => exact Attempt.Sure.pure ()
  | nonce => exact Attempt.Sure.pure ()

theorem noteApplied_total (outcome : DispatchOutcome) :
    Action.Total (rules.noteApplied outcome info) := by
  cases outcome with
  | ok post => exact (deposit_total _).bind fun _ => Action.Total.change _
  | error failure => exact (deposit_total _).bind fun _ => Action.Total.change _

end Rules

namespace Chain

variable {chain : Chain Account Number Call} {form : ExtrinsicForm Account Number Call Form}

/-! ### The beginning of a block -/

private theorem totalWeight_total {hooks : List (Action Weight)}
    (total : ∀ hook ∈ hooks, Action.Total hook) : Action.Total (totalWeight hooks) :=
  Action.Total.foldlM hooks (fun sum hook member =>
    (total hook member).bind fun weight => Action.Total.pure (sum.saturatingAdd weight))
    Weight.zero

omit [DecidableEq Account] in
theorem begin_total (upgrade : ∀ hook ∈ chain.upgradeHooks, Action.Total hook)
    (begin : ∀ hook ∈ chain.beginHooks, ∀ number, Action.Total (hook number))
    (header : Header Number) : Action.Total (chain.begin header) := by
  have upgrades : Action.Total chain.upgradeIfNew := by
    refine (Action.Total.look _).bind fun upgraded => ?_
    refine Action.Total.ite ?_ (Action.Total.pure _)
    refine (totalWeight_total upgrade).bind fun weight => ?_
    exact (Action.Total.change _).bind fun _ => Action.Total.pure _
  have hooks : Action.Total (totalWeight (chain.beginHooks.map (· header.number))) := by
    apply totalWeight_total
    intro hook member
    obtain ⟨beginHook, among, rfl⟩ := List.mem_map.mp member
    exact begin beginHook among header.number
  refine (Action.Total.change _).bind fun _ => upgrades.bind fun upgradeWeight => ?_
  refine (Action.Total.change _).bind fun _ => hooks.bind fun hookWeight => ?_
  exact (Action.Total.change _).bind fun _ => Action.Total.change _

/-! ### Extrinsics -/

variable {extrinsic : Form} {checked : CheckedExtrinsic Account Number Call}
variable {before : World}

private theorem applyExtrinsic_checked
    (passes : form.check extrinsic before.store = .ok (.ok checked)) :
    (chain.applyExtrinsic form extrinsic).run before = (do
      let outcome ← chain.apply checked (form.info extrinsic) (form.codec.encode extrinsic).length
      if outcome.toOption.isNone ∧ (form.info extrinsic).kind = .mandatory then
        throw (.invalid .badMandatory)
      chain.rules.noteApplied outcome (form.info extrinsic)
      return outcome.plain : Attempt Rejection (Except DispatchError Unit)).run
        ⟨Environment.noteExtrinsic (form.codec.encode extrinsic) before.store, before.notes⟩ := by
  have asks : (Attempt.ask (form.check extrinsic)).run before = .ok (.ok checked) before :=
    Action.ask_of_ok passes
  have notes : (liftM (Action.change (Environment.noteExtrinsic (form.codec.encode extrinsic))) :
      Attempt Rejection Unit).run before = .ok (.ok ())
        ⟨Environment.noteExtrinsic (form.codec.encode extrinsic) before.store, before.notes⟩ :=
    Attempt.lift_run_ok (Action.change_run _ _)
  unfold applyExtrinsic
  dsimp only
  rw [Attempt.bind_run_ok asks, Attempt.bind_run_ok notes]

theorem applyExtrinsic_refused {cause : Rejection} {after : World}
    (passes : form.check extrinsic before.store = .ok (.ok checked))
    (refused : (chain.prepare checked (form.info extrinsic)
      (form.codec.encode extrinsic).length).run
        ⟨Environment.noteExtrinsic (form.codec.encode extrinsic) before.store, before.notes⟩ =
        .ok (.error cause) after) :
    (chain.applyExtrinsic form extrinsic).run before = .ok (.error cause) after := by
  rw [applyExtrinsic_checked passes]
  unfold apply
  rw [Attempt.bind_run_error (Attempt.bind_run_error refused)]

/-- Behind the call nothing rejects any more: the fee and the log are sure to end. -/
theorem applyExtrinsic_of_dispatched (lives : chain.rules.SafeLives)
    (passed : ∀ amount, Action.Total (chain.rules.feesTaken amount))
    {payment : Option (Payment Account)} {ready dispatched : World} {outcome : DispatchOutcome}
    (passes : form.check extrinsic before.store = .ok (.ok checked))
    (prepares : (chain.prepare checked (form.info extrinsic)
      (form.codec.encode extrinsic).length).run
        ⟨Environment.noteExtrinsic (form.codec.encode extrinsic) before.store, before.notes⟩ =
        .ok (.ok payment) ready)
    (dispatches : chain.dispatch checked.call (.ofSigner (checked.signer.map (·.1))) ready =
      .ok outcome dispatched)
    (allowed : ¬(outcome.toOption.isNone = true ∧ (form.info extrinsic).kind = .mandatory)) :
    ∃ after, (chain.applyExtrinsic form extrinsic).run before = .ok (.ok outcome.plain) after := by
  have sure : Attempt.Sure (chain.rules.settle payment (form.info extrinsic) outcome.post
      (form.codec.encode extrinsic).length outcome.toOption.isNone Check.all) :=
    Rules.settle_sure lives passed (fun bad => allowed bad.symm) Check.all
  obtain ⟨_, applied, settles⟩ := sure dispatched
  have calls : (ExceptT.lift (chain.dispatch checked.call
      (.ofSigner (checked.signer.map (·.1)))) : Attempt Rejection DispatchOutcome).run ready =
        .ok (.ok outcome) dispatched := Attempt.lift_run_ok dispatches
  have applies : (chain.apply checked (form.info extrinsic)
      (form.codec.encode extrinsic).length).run
        ⟨Environment.noteExtrinsic (form.codec.encode extrinsic) before.store, before.notes⟩ =
        .ok (.ok outcome) applied := by
    unfold apply
    rw [Attempt.bind_run_ok prepares]
    dsimp only
    rw [Attempt.bind_run_ok calls, Attempt.bind_run_ok settles]
    rfl
  have total : Action.Total (chain.rules.noteApplied outcome (form.info extrinsic)) :=
    Rules.noteApplied_total outcome
  obtain ⟨_, after, logs⟩ := total applied
  refine ⟨after, ?_⟩
  rw [applyExtrinsic_checked passes, Attempt.bind_run_ok applies]
  dsimp only
  rw [if_neg allowed]
  exact Attempt.bind_run_ok (Attempt.lift_run_ok logs)

theorem applyExtrinsic_iff (lives : chain.rules.SafeLives)
    (passed : ∀ amount, Action.Total (chain.rules.feesTaken amount))
    (mild : (form.info extrinsic).kind ≠ .mandatory)
    (safe : ∀ checked, form.check extrinsic before.store = .ok (.ok checked) →
      ∀ signer, Action.Total (chain.dispatch checked.call (.ofSigner signer))) :
    (∃ result after,
        (chain.applyExtrinsic form extrinsic).run before = .ok (.ok result) after) ↔
      ∃ checked payment ready, form.check extrinsic before.store = .ok (.ok checked) ∧
        (chain.prepare checked (form.info extrinsic) (form.codec.encode extrinsic).length).run
          ⟨Environment.noteExtrinsic (form.codec.encode extrinsic) before.store, before.notes⟩ =
          .ok (.ok payment) ready := by
  constructor
  · rintro ⟨result, after, run⟩
    obtain ⟨checked, outcome, applied, passes, applies, _⟩ := applyExtrinsic_included run
    obtain ⟨stages⟩ := applied_of_run applies
    exact ⟨checked, stages.payment, stages.ready, passes, stages.prepares⟩
  · rintro ⟨checked, payment, ready, passes, prepares⟩
    obtain ⟨outcome, dispatched, dispatches⟩ := safe checked passes _ ready
    obtain ⟨after, run⟩ := applyExtrinsic_of_dispatched lives passed passes prepares dispatches
      fun bad => mild bad.2
    exact ⟨outcome.plain, after, run⟩

end Chain

end StateTransition
