import StateTransition.Proofs.Testnet.Included

set_option autoImplicit false

/-! Extrinsics whose call fails are included all the same. What the call has written goes with the
layer it was run in; what is left is the bookkeeping of the extrinsic, and for its signer a nonce
and the fee. -/

namespace StateTransition.Testnet

/-! ### The call -/

theorem dispatch_failed {call : Call} {signer : Option AccountId} {world after : World}
    {failure : DispatchFailure} (absent : world.store.get? Layer.levelKey = none)
    (run : dispatch call (.ofSigner signer) world = .ok (.error failure) after) :
    failure.post = .unchanged ∧ after.store.visible = world.store.visible := by
  cases call with
  | system call => exact Call.layered_failed (runSystemCall_names signer call) absent run
  | timestamp call => exact Call.layered_failed (runTimestamp_names _ call) absent run
  | balances call => exact Call.layered_failed (runBalanceCall_names signer call) absent run

/-! ### Extrinsics whose call fails -/

private theorem failed_of_run {extrinsic : Extrinsic} {error : DispatchError} {before after : World}
    (run : (chain.applyExtrinsic form extrinsic).run before = .ok (.ok (.error error)) after) :
    ∃ failure : DispatchFailure, failure.error = error ∧
      Nonempty (Included extrinsic (.error failure) before after) := by
  obtain ⟨outcome, plain, included⟩ := included_of_run run
  cases outcome with
  | ok post => cases plain
  | error failure =>
      cases plain
      exact ⟨failure, rfl, included⟩

namespace Included

variable {extrinsic : Extrinsic} {failure : DispatchFailure} {before after : World}
variable (included : Included extrinsic (.error failure) before after)
variable (lone : before.store.get? Layer.levelKey = none)

include included lone

theorem reverted : failure.post = .unchanged ∧
    included.stages.dispatched.store.visible = included.stages.ready.store.visible := by
  have absent : included.stages.ready.store.get? Layer.levelKey = none := by
    rw [included.readied Bookkeeping.level_apart]
    exact lone
  exact dispatch_failed absent included.dispatched

private theorem reverted_get? (key : Bytes) :
    included.stages.dispatched.store.get? key = included.stages.ready.store.get? key :=
  Store.seen_get? key _ _ (included.reverted lone).2

theorem spares_failed {key : Bytes}
    (outside : ¬Bookkeeping (Environment.extrinsicIndex before.store) (signer? extrinsic) key) :
    after.store.get? key = before.store.get? key := by
  rw [included.closed _ outside, included.reverted_get? lone, included.readied outside]

/-- The signer has used up a nonce and paid the declared fee, and nothing else. -/
theorem charged_failed {who : AccountId} {terms : Terms Number}
    (signs : included.checked.signer = some (who, terms)) {fee : Balance}
    (declared : fee = rules.fee (UInt32.ofNat (form.codec.encode extrinsic).length)
      (form.info extrinsic) terms.tip before.store) :
    ∃ (next : Number) (rest : Balance),
      next.toNat = (rules.accountInfo who before.store).nonce.toNat + 1 ∧
      rest.toNat + fee.toNat = (rules.freeBalance who before.store).toNat ∧
      rules.Rebooked who { rules.accountInfo who before.store with nonce := next, free := rest }
        (Word.saturatingSub (Item.totalIssuance.get before.store) fee) before.store
        after.store := by
  have begun := noted_same (form.codec.encode extrinsic) before
  obtain ⟨unreported, _⟩ := included.reverted lone
  have settles := included.stages.settles
  change (rules.settle included.stages.payment (form.info extrinsic) failure.post
    (form.codec.encode extrinsic).length true Check.all).run _ = _ at settles
  rw [unreported] at settles
  rcases prepare_charges included.stages.prepares with
    ⟨unsigned, _⟩ | ⟨payer, paidTerms, signed, checks⟩
  · rw [unsigned] at signs
    cases signs
  rw [signs] at signed
  cases signed
  obtain ⟨charge, next, rest, counts, pays, booked⟩ :=
    Rules.prepareSigned_charged positive checks
  rw [noted_fee, ← declared] at charge pays booked
  rw [begun.accountInfo rules who, begun.issuance] at booked
  rw [begun.accountInfo rules who] at counts
  rw [begun.freeBalance rules who] at pays
  have reverted : SameBooks included.stages.ready.store included.stages.dispatched.store :=
    fun key _ => included.reverted_get? lone key
  have settled : SameBooks included.stages.dispatched.store included.applied.store := by
    apply Rules.settle_failed feesTaken_same _ settles
    intro paid isPaid amount hasPaid
    rw [charge] at isPaid
    cases isPaid
    rw [Rules.fee_congr included.dispatched_multiplier, ← declared]
    by_cases nothing : fee = 0
    · rw [if_pos nothing] at hasPaid
      cases hasPaid
    · rw [if_neg nothing] at hasPaid
      exact (Option.some.inj hasPaid).symm
  have opening : rules.Rebooked who _ _ before.store _ := Rules.rebooked_of_same begun
  exact ⟨next, rest, counts, pays, (((opening.trans booked).aside reverted).aside settled).aside
    (noteApplied_same included.notes)⟩

end Included

/-! ### From outside -/

/-- A fee that the signer could pay leaves the issuance as a whole, since every balance is a part of
it. -/
theorem receipt_of_charged {who : AccountId} {before after : Store} {next : Number}
    {rest fee : Balance}
    (total : (Item.totalIssuance.get before).toNat = rules.totalFree before)
    (counts : next.toNat = (rules.accountInfo who before).nonce.toNat + 1)
    (pays : rest.toNat + fee.toNat = (rules.accountInfo who before).free.toNat)
    (charged : rules.Rebooked who
      { rules.accountInfo who before with nonce := next, free := rest }
      (Word.saturatingSub (Item.totalIssuance.get before) fee) before after) :
    let info := rules.accountInfo who after
    info.nonce.toNat = (rules.accountInfo who before).nonce.toNat + 1 ∧
      info.consumers = (rules.accountInfo who before).consumers ∧
      info.providers = (rules.accountInfo who before).providers ∧
      info.sufficients = (rules.accountInfo who before).sufficients ∧
      info.free.toNat + fee.toNat = (rules.accountInfo who before).free.toNat ∧
      (Item.totalIssuance.get after).toNat + fee.toNat =
        (Item.totalIssuance.get before).toNat := by
  have covered := Rules.free_le_total faithful who before
  change (rules.accountInfo who before).free.toNat ≤ _ at covered
  dsimp only
  rw [charged.record, charged.issuance, Balance.toNat_saturatingSub]
  refine ⟨counts, rfl, rfl, rfl, pays, ?_⟩
  omega

namespace Entry

/-- An extrinsic that is included although its call failed changes its bookkeeping alone. Its signer
has one more nonce and has paid the actual fee, which is gone from the issuance. -/
theorem applyExtrinsic_failed (extrinsic : Extrinsic) (world after : World) (error : DispatchError)
    (total : (Item.totalIssuance.get world.store).toNat =
      ((rules.accounts.entries world.store).map fun row => row.2.free.toNat).sum)
    (lone : world.store.get? Layer.levelKey = none)
    (run : applyExtrinsic extrinsic world = .ok (.ok (.error error)) after) :
    (∀ key, ¬Bookkeeping (Environment.extrinsicIndex world.store) (signer? extrinsic) key →
      after.store.get? key = world.store.get? key) ∧
    ∀ signature, extrinsic.signature = some signature →
      ∃ who ready failure reverted, signature.place.resolve? = some who ∧
        dispatch extrinsic.call (.signed who) ready = .ok (.error failure) reverted ∧
        failure.error = error ∧
        let before := rules.accountInfo who world.store
        let info := rules.accountInfo who after.store
        let fee := rules.actualFee (UInt32.ofNat (form.codec.encode extrinsic).length)
          (form.info extrinsic) failure.post signature.terms.tip world.store
        info.nonce.toNat = before.nonce.toNat + 1 ∧ info.consumers = before.consumers ∧
          info.providers = before.providers ∧ info.sufficients = before.sufficients ∧
          info.free.toNat + fee.toNat = before.free.toNat ∧
          (Item.totalIssuance.get after.store).toNat + fee.toNat =
            (Item.totalIssuance.get world.store).toNat := by
  obtain ⟨ended, ran, looks, _⟩ := included_run run
  obtain ⟨failure, fails, ⟨included⟩⟩ := failed_of_run ran
  have alone : world.layered.store.get? Layer.levelKey = none := by
    rw [layered_get?]
    exact lone
  have shown : ∀ key, after.store.get? key = ended.store.get? key := fun key =>
    Store.seen_get? key _ _ looks
  constructor
  · intro key outside
    rw [shown, ← layered_get? world]
    exact included.spares_failed alone outside
  · intro signature signs
    obtain ⟨who, resolves, signer⟩ := included.signer_eq signs
    have dispatches := included.dispatched
    rw [← included.signed, signer] at dispatches
    refine ⟨who, _, failure, _, resolves, dispatches, fails, ?_⟩
    have sameFee : rules.fee (UInt32.ofNat (form.codec.encode extrinsic).length)
        (form.info extrinsic) signature.terms.tip world.layered.store =
        rules.fee (UInt32.ofNat (form.codec.encode extrinsic).length) (form.info extrinsic)
          signature.terms.tip world.store := Rules.fee_congr (layered_get? world _) _ _ _
    obtain ⟨next, rest, counts, pays, charged⟩ := included.charged_failed alone signer sameFee.symm
    have opening : SameBooks world.store world.layered.store := fun key _ => layered_get? world key
    have closing : SameBooks ended.store after.store := fun key _ => shown key
    have opened : rules.Rebooked who _ _ world.store _ := Rules.rebooked_of_same opening
    have booked := opened.trans (charged.aside closing)
    rw [opening.accountInfo rules who] at counts booked
    rw [Rules.freeBalance, opening.accountInfo rules who] at pays
    rw [opening.issuance] at booked
    rw [(included.reverted alone).1, Rules.actualFee_unchanged]
    exact receipt_of_charged total counts pays booked

/-- A transfer of more than its signer has. Its signature is one by the neutral point of the curve,
which proves any message. -/
theorem applyExtrinsic_failed_overdrawn :
    ∃ (extrinsic : Extrinsic) (who : AccountId) (world after : World),
      signer? extrinsic = some who ∧
      applyExtrinsic extrinsic world =
        .ok (.ok (.error (rules.balanceError .insufficient))) after ∧
      (rules.accountInfo who after.store).nonce.toNat =
        (rules.accountInfo who world.store).nonce.toNat + 1 := by
  let who : AccountId := ⟨1 :: List.replicate 31 0, rfl⟩
  let proof : Octets 64 := ⟨1 :: List.replicate 63 0, rfl⟩
  let transfer : Call := .balances (.transferAllowDeath (.id (.filled 32 2)) 2000000000000000)
  let extrinsic : Extrinsic := ⟨some ⟨.id who, proof, ⟨.immortal, 0, 0⟩⟩, transfer⟩
  let endowed := Action.ending (rules.endow [(who, 1000000000000000)]) ⟨.empty, []⟩
  let world : World := ⟨rules.writeGenesis endowed.store, []⟩
  have run : applyExtrinsic extrinsic world =
      .ok (.ok (.error (rules.balanceError .insufficient)))
        (Action.ending (applyExtrinsic extrinsic) world) :=
    Action.run_of_answer_ok (by decide +kernel)
  have total : (Item.totalIssuance.get world.store).toNat =
      ((rules.accounts.entries world.store).map fun row => row.2.free.toNat).sum := by
    decide +kernel
  have lone : world.store.get? Layer.levelKey = none := by decide +kernel
  obtain ⟨payer, _, _, _, resolves, _, _, counts, _⟩ :=
    (applyExtrinsic_failed _ _ _ _ total lone run).2 _ rfl
  cases resolves
  exact ⟨extrinsic, who, world, _, rfl, run, counts⟩

end Entry

end StateTransition.Testnet
