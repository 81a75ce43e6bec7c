import StateTransition.Proofs.Chain.Block
import StateTransition.Proofs.Chain.Total
import StateTransition.Proofs.Trap

set_option autoImplicit false

/-! The extrinsics of a block do not end in the trap of a block that does not follow on the one it
names, if nothing that the chain adds to them does. -/

namespace StateTransition

variable {Account Number Call Form Index α : Type} [DecidableEq Account] [Word Number]

/-! ### Checks -/

namespace Rules

variable {rules : Rules Account Number} {terms : Terms Number} {who : Account}
variable {info : DispatchInfo} {length : Nat}

section

omit [DecidableEq Account]

private theorem birthHash_avoids (era : Era) : (rules.birthHash era).Avoids .parentHash := by
  intro store trapped
  unfold birthHash at trapped
  split at trapped <;> cases trapped

private theorem signedPart_avoids (check : Check) :
    (rules.signedPart terms check).Avoids .parentHash := by
  cases check with
  | mortality => exact (birthHash_avoids terms.era).bind fun _ => Query.Avoids.pure _
  | genesis => exact Query.Avoids.look _
  | sender => exact Query.Avoids.pure _
  | specVersion => exact Query.Avoids.pure _
  | transactionVersion => exact Query.Avoids.pure _
  | nonce => exact Query.Avoids.pure _
  | weight => exact Query.Avoids.pure _
  | payment => exact Query.Avoids.pure _

theorem signedParts_avoids (checks : List Check) :
    (rules.signedParts terms checks).Avoids .parentHash := by
  induction checks with
  | nil => exact Query.Avoids.pure _
  | cons check others ih =>
      refine (signedPart_avoids check).bind fun part => ?_
      cases part with
      | error cause => exact Query.Avoids.pure _
      | ok part => exact ih.bind fun _ => Query.Avoids.pure _

private theorem validateCheck_avoids (check : Check) :
    (rules.validateCheck terms who info length check).Avoids .parentHash := by
  cases check with
  | mortality =>
      intro store trapped
      unfold validateCheck at trapped
      dsimp only at trapped
      split at trapped <;> cases trapped
  | nonce => exact Query.Avoids.look _
  | weight => exact Query.Avoids.look _
  | payment => exact Query.Avoids.look _
  | sender => exact Query.Avoids.pure _
  | specVersion => exact Query.Avoids.pure _
  | transactionVersion => exact Query.Avoids.pure _
  | genesis => exact Query.Avoids.pure _

private theorem incrementNonce_avoids (who : Account) :
    Action.Avoids .parentHash (rules.incrementNonce who) := by
  have counts : Query.Avoids .parentHash fun store =>
      (rules.accountInfo who store).withTransaction := by
    intro store trapped
    dsimp only [AccountInfo.withTransaction] at trapped
    split at trapped <;> cases trapped
  exact (Action.Avoids.ask counts).bind fun _ => Action.Avoids.of_total (Action.Total.change _)

end

omit [DecidableEq Account] [Word Number] in
private theorem takeRoom_total (info : DispatchInfo) (length : Nat) :
    Attempt.Total (Attempt.update (rules.takeRoom info (UInt32.ofNat length))) :=
  Attempt.Total.mk (Action.Total.update _)

private theorem payFee_total (lives : rules.SafeLives) (fee : Balance) :
    Attempt.Total (rules.payFee who fee) := by
  have pays : Attempt.Total (do
      let paid ← (rules.withdraw who fee .keepAlive).adapt fun _ => .invalid .payment
      return some paid : Attempt Rejection (Option Balance)) :=
    ((withdraw_total lives fee .keepAlive).adapt _).bind fun _ => Attempt.Total.pure _
  exact (Attempt.Total.pure none).ite pays

private theorem prepareCheck_avoids (lives : rules.SafeLives) (check : Check) :
    Attempt.Avoids .parentHash (rules.prepareCheck terms who info length check) := by
  have done : ∀ paid : Option (Payment Account), Attempt.Avoids .parentHash
      (pure paid : Attempt Rejection (Option (Payment Account))) := fun _ =>
    Attempt.Avoids.of_total (Attempt.Total.pure _)
  have validated : ∀ check, Attempt.Avoids .parentHash do
      let _ ← Attempt.ask (rules.validateCheck terms who info length check)
      return (none : Option (Payment Account)) := fun check =>
    (Attempt.Avoids.ask (validateCheck_avoids check)).bind fun _ => done none
  cases check with
  | nonce =>
      have looks : Attempt.Avoids .parentHash
          (ExceptT.mk (Action.look (rules.checkNonce who terms.nonce))) :=
        Attempt.Avoids.of_total (Action.Total.look _)
      have takes : Attempt.Avoids .parentHash (rules.takeNonce who terms.nonce) :=
        looks.bind fun _ => Attempt.Avoids.lift (incrementNonce_avoids who)
      exact takes.bind fun _ => done none
  | weight => exact (Attempt.Avoids.of_total (takeRoom_total info length)).bind fun _ => done none
  | payment =>
      have takes : Attempt.Total (rules.takeFee who terms.tip info length) :=
        (Attempt.Total.look _).bind fun fee => (payFee_total lives fee).bind fun _ =>
          Attempt.Total.pure _
      exact (Attempt.Avoids.of_total takes).bind fun _ => done _
  | sender => exact validated _
  | specVersion => exact validated _
  | transactionVersion => exact validated _
  | genesis => exact validated _
  | mortality => exact validated _

theorem prepareSigned_avoids (lives : rules.SafeLives) (checks : List Check) :
    Attempt.Avoids .parentHash (rules.prepareSigned terms who info length checks) := by
  induction checks with
  | nil => exact Attempt.Avoids.of_total (Attempt.Total.pure _)
  | cons check others ih =>
      exact (prepareCheck_avoids lives check).bind fun _ => ih.bind fun _ =>
        Attempt.Avoids.of_total (Attempt.Total.pure _)

omit [DecidableEq Account] [Word Number] in
private theorem prepareBare_avoids (checks : List Check) :
    Attempt.Avoids .parentHash (rules.prepareBare info length checks) := by
  apply Attempt.Avoids.forM
  intro check _
  have done : Attempt.Avoids .parentHash (pure () : Attempt Rejection Unit) :=
    Attempt.Avoids.of_total (Attempt.Total.pure ())
  cases check with
  | weight => exact Attempt.Avoids.of_total (takeRoom_total info length)
  | sender => exact done
  | specVersion => exact done
  | transactionVersion => exact done
  | genesis => exact done
  | mortality => exact done
  | nonce => exact done
  | payment => exact done

theorem settle_avoids {post : PostInfo} {payment : Option (Payment Account)} {failed : Bool}
    (lives : rules.SafeLives) (passed : ∀ amount, Action.Total (rules.feesTaken amount))
    (checks : List Check) :
    Attempt.Avoids .parentHash (rules.settle payment info post length failed checks) := by
  apply Attempt.Avoids.forM
  intro check _
  have done : Attempt.Avoids .parentHash (pure () : Attempt Rejection Unit) :=
    Attempt.Avoids.of_total (Attempt.Total.pure ())
  cases check with
  | weight =>
      exact (Attempt.Avoids.of_total (Attempt.Total.throw _)).ite
        (Attempt.Avoids.of_total (Attempt.Total.lift (Action.Total.change _)))
  | payment =>
      cases payment with
      | none => exact done
      | some paid =>
          exact Attempt.Avoids.of_total
            (Attempt.Total.lift (settlePayment_total lives passed paid))
  | sender => exact done
  | specVersion => exact done
  | transactionVersion => exact done
  | genesis => exact done
  | mortality => exact done
  | nonce => exact done

omit [DecidableEq Account] [Word Number] in
theorem updateMultiplier_avoids : Action.Avoids .parentHash rules.updateMultiplier := by
  have moves : ∀ previous, Query.Avoids .parentHash (rules.multiplierAfter previous) := by
    intro previous store trapped
    unfold multiplierAfter at trapped
    cases rule : rules.multiplierRule with
    | kept =>
        rw [rule] at trapped
        cases trapped
    | constant value =>
        rw [rule] at trapped
        cases trapped
    | targeted target variability least most =>
        rw [rule] at trapped
        dsimp only at trapped
        split at trapped <;> cases trapped
  refine (Action.Avoids.of_total (Action.Total.look _)).bind fun previous => ?_
  exact (Action.Avoids.ask (moves previous)).bind fun _ =>
    Action.Avoids.of_total (Action.Total.change _)

end Rules

namespace Chain

variable {chain : Chain Account Number Call} {form : ExtrinsicForm Account Number Call Form}

/-- What the chain adds to blocks does not complain of the parent of a block. -/
structure SparesParent (chain : Chain Account Number Call)
    (form : ExtrinsicForm Account Number Call Form) : Prop where
  lives : chain.rules.SafeLives
  fees : ∀ amount, Action.Total (chain.rules.feesTaken amount)
  check : ∀ extrinsic, (form.check extrinsic).Avoids .parentHash
  dispatch : ∀ call signer, Action.Avoids .parentHash (chain.dispatch call (.ofSigner signer))

/-! ### Extrinsics -/

theorem prepare_avoids (spares : chain.SparesParent form)
    (extrinsic : CheckedExtrinsic Account Number Call) (info : DispatchInfo) (length : Nat) :
    Attempt.Avoids .parentHash (chain.prepare extrinsic info length) := by
  unfold prepare
  cases extrinsic.signer with
  | some signer => exact Rules.prepareSigned_avoids spares.lives _
  | none =>
      refine (Rules.prepareBare_avoids _).bind fun _ => ?_
      have admitted : Attempt.Avoids .parentHash
          (ExceptT.mk (Action.look (chain.admitUnsigned extrinsic.call))) :=
        Attempt.Avoids.of_total (Action.Total.look _)
      exact admitted.bind fun _ => Attempt.Avoids.of_total (Attempt.Total.pure _)

theorem applyExtrinsic_avoids (spares : chain.SparesParent form) (extrinsic : Form) :
    Attempt.Avoids .parentHash (chain.applyExtrinsic form extrinsic) := by
  refine (Attempt.Avoids.ask (spares.check extrinsic)).bind fun checked => ?_
  refine (Attempt.Avoids.of_total (Attempt.Total.lift (Action.Total.change _))).bind fun _ => ?_
  have applies : ∀ length, Attempt.Avoids .parentHash
      (chain.apply checked (form.info extrinsic) length) := by
    intro length
    refine (prepare_avoids spares checked _ length).bind fun payment => ?_
    refine (Attempt.Avoids.lift (spares.dispatch _ _)).bind fun outcome => ?_
    exact (Rules.settle_avoids spares.lives spares.fees _).bind fun _ =>
      Attempt.Avoids.of_total (Attempt.Total.pure _)
  refine (applies _).bind fun outcome => ?_
  have notes : Attempt.Avoids .parentHash (do
      chain.rules.noteApplied outcome (form.info extrinsic)
      return outcome.plain : Attempt Rejection (Except DispatchError Unit)) :=
    (Attempt.Avoids.of_total
      (Attempt.Total.lift (Rules.noteApplied_total outcome))).bind fun _ =>
      Attempt.Avoids.of_total (Attempt.Total.pure _)
  exact ((Attempt.Avoids.of_total (Attempt.Total.throw _)).bind fun _ => notes).ite notes

theorem applyAll_avoids (spares : chain.SparesParent form) (extrinsics : List Form) :
    Action.Avoids .parentHash (chain.applyAll form extrinsics) := by
  induction extrinsics with
  | nil => exact Action.Avoids.of_total (Action.Total.pure ())
  | cons extrinsic others ih =>
      refine Action.Avoids.bind (applyExtrinsic_avoids spares extrinsic) fun outcome => ?_
      cases outcome with
      | ok result => exact ih
      | error cause => exact Action.Avoids.trap nofun

/-! ### The end of a block -/

omit [DecidableEq Account] in
theorem idle_total (idle : ∀ hook ∈ chain.idleHooks, ∀ number remaining,
      Action.Total (hook number remaining)) (number : Number) :
    Action.Total (chain.idle number) := by
  refine (Action.Total.look _).bind fun consumed => ?_
  refine Action.Total.ite ?_ (Action.Total.pure ())
  have hooks : Action.Total
      (useRemaining (chain.rules.weights.maxBlock.saturatingSub consumed.total)
        ((rotate chain.idleHooks (Word.toNat number)).map (· number))) := by
    refine Action.Total.foldlM _ (fun used hook member => ?_) Weight.zero
    obtain ⟨idleHook, among, rfl⟩ := List.mem_map.mp member
    exact (idle idleHook (mem_rotate.mp among) number _).bind fun weight =>
      Action.Total.pure (used.saturatingAdd weight)
  exact hooks.bind fun used => Action.Total.change _

omit [DecidableEq Account] in
theorem sealing_avoids (idle : ∀ hook ∈ chain.idleHooks, ∀ number remaining,
      Action.Total (hook number remaining))
    (finish : ∀ hook ∈ chain.finishHooks, ∀ number, Action.Avoids .parentHash (hook number))
    (number : Number) : Action.Avoids .parentHash (chain.sealing number) := by
  have hooks : Action.Avoids .parentHash (chain.idleAndFinish number) := by
    refine (Action.Avoids.of_total (idle_total idle number)).bind fun _ => ?_
    apply Action.Avoids.forM
    intro hook member
    obtain ⟨finishHook, among, rfl⟩ := List.mem_map.mp member
    exact finish finishHook among number
  refine (Action.Avoids.of_total (Action.Total.change _)).bind fun _ => ?_
  exact hooks.bind fun _ => Action.Avoids.of_total (Action.Total.update _)

end Chain

end StateTransition
