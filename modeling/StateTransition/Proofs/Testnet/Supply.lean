import StateTransition.Proofs.Testnet.Invariant
import StateTransition.Proofs.Transaction.Supply

set_option autoImplicit false

/-! The supply of the test network. Nothing is created on it after its beginning: an extrinsic takes
its fee out of the sum of all balances and may burn dust, and what it gives back is a part of its fee.
Accounts keep the shape that they have been given with their first balance. -/

namespace StateTransition.Testnet

/-! ### Calls -/

def Call.postOf : Call → Except DispatchError Unit → PostInfo
  | .system call, .ok () => call.successReport
  | _, _ => .unchanged

theorem dispatch_reports {call : Call} {signer : Option AccountId} {world after : World}
    {outcome : DispatchOutcome} (run : dispatch call (.ofSigner signer) world = .ok outcome after) :
    outcome.post = call.postOf outcome.plain := by
  have reported : outcome.post = if outcome.isOk then call.postOf (.ok ()) else .unchanged := by
    cases call with
    | system call =>
        exact Call.layered_reports (Rules.runSystemCall_reports _ call)
          (runSystemCall_names signer call) run
    | timestamp call =>
        exact Call.layered_reports (Timestamp.run_reports _ call) (runTimestamp_names _ call) run
    | balances call =>
        exact Call.layered_reports (Rules.runBalanceCall_reports _ call)
          (runBalanceCall_names signer call) run
  rw [reported]
  cases outcome with
  | ok post => rfl
  | error failure => cases call <;> rfl

/-- What a call burns that has ended with a result, where its signer has so much. -/
def Call.burnt (call : Call) (result : Except DispatchError Unit) (signer : AccountId)
    (free : Nat) : Nat :=
  match call, result with
  | .balances call, .ok () => rules.burnt signer free call
  | _, _ => 0

theorem dispatch_burns {call : Call} {signer : Option AccountId} {world after : World}
    {outcome : DispatchOutcome} (plain : rules.Plain world.store)
    (run : dispatch call (.ofSigner signer) world = .ok outcome after) :
    rules.Plain after.store ∧
      (rules.totalFree after.store + signer.elim 0 fun who =>
          call.burnt outcome.plain who (rules.freeBalance who world.store).toNat) =
        rules.totalFree world.store := by
  rcases dispatch_books run with
    ⟨same, others⟩ | ⟨call, post, entered, ended, rfl, rfl, entering, ran, leaving⟩
  · have nothing : ∀ who free, call.burnt outcome.plain who free = 0 := by
      intro who free
      cases call with
      | system call => rfl
      | timestamp call => rfl
      | balances call =>
          obtain ⟨error, rfl⟩ := others call rfl
          rfl
    simp only [nothing]
    rw [Rules.totalFree_same same]
    refine ⟨plain.same same, ?_⟩
    cases signer <;> rfl
  · obtain ⟨kept, who, rfl, total⟩ := Rules.runBalanceCall_burns faithful quiet positive
      (plain.same entering) ran
    rw [Rules.totalFree_same entering, entering.freeBalance rules who] at total
    rw [Rules.totalFree_same leaving]
    exact ⟨kept.same leaving, total⟩

/-! ### Extrinsics -/

def tip (extrinsic : Extrinsic) : Balance := extrinsic.signature.elim 0 (·.terms.tip)

/-- The fee of an extrinsic with its tip, as far as it is known before its call. -/
def declaredFee (extrinsic : Extrinsic) (store : Store) : Balance :=
  rules.fee (UInt32.ofNat (form.codec.encode extrinsic).length) (form.info extrinsic)
    (tip extrinsic) store

/-- The fee of an extrinsic with its tip, once its call has ended with a result. -/
def actualFee (extrinsic : Extrinsic) (result : Except DispatchError Unit) (store : Store) :
    Balance :=
  rules.actualFee (UInt32.ofNat (form.codec.encode extrinsic).length) (form.info extrinsic)
    (extrinsic.call.postOf result) (tip extrinsic) store

/-- What is withdrawn from the signer of an extrinsic before its call. -/
def charge (extrinsic : Extrinsic) (before : Store) : Nat :=
  (signer? extrinsic).elim 0 fun _ => (declaredFee extrinsic before).toNat

/-- What is given back to the signer of an extrinsic after its call, unless the call was the end of
its balance. -/
def refund (extrinsic : Extrinsic) (result : Except DispatchError Unit) (before after : Store) :
    Nat :=
  (signer? extrinsic).elim 0 fun who =>
    Rules.givenBack (rules.freeBalance who after) (declaredFee extrinsic before)
      (actualFee extrinsic result before)

/-- What the call of an extrinsic burns: what is left to its signer, if that is too little. -/
def dust (extrinsic : Extrinsic) (result : Except DispatchError Unit) (before : Store) : Nat :=
  (signer? extrinsic).elim 0 fun who =>
    extrinsic.call.burnt result who
      ((rules.freeBalance who before).toNat - charge extrinsic before)

private theorem refund_le_charge (extrinsic : Extrinsic) (result : Except DispatchError Unit)
    (before after : Store) : refund extrinsic result before after ≤ charge extrinsic before := by
  unfold refund charge
  cases signer? extrinsic with
  | none => exact Nat.le_refl 0
  | some who =>
      simp only [Option.elim_some, Rules.givenBack]
      split
      · exact Nat.zero_le _
      · exact Nat.sub_le _ _

/-- The sum of all balances goes down by what is withdrawn, less what is given back, and by the dust
that is burnt. -/
def Settles (extrinsic : Extrinsic) (result : Except DispatchError Unit) (before after : Store) :
    Prop :=
  rules.totalFree after + charge extrinsic before + dust extrinsic result before =
    rules.totalFree before + refund extrinsic result before after

theorem Settles.shrinks {extrinsic : Extrinsic} {result : Except DispatchError Unit}
    {before after : Store} (settles : Settles extrinsic result before after) :
    rules.totalFree after ≤ rules.totalFree before := by
  have part := refund_le_charge extrinsic result before after
  unfold Settles at settles
  omega

theorem Settles.seen {extrinsic : Extrinsic} {result : Except DispatchError Unit}
    {before after seenBefore seenAfter : Store} (settles : Settles extrinsic result before after)
    (looksBefore : seenBefore.visible = before.visible)
    (looksAfter : seenAfter.visible = after.visible) :
    Settles extrinsic result seenBefore seenAfter := by
  have multiplier : seenBefore.get? Item.nextMultiplier.key = before.get? Item.nextMultiplier.key :=
    Store.seen_get? _ _ _ looksBefore
  have sameBefore := same_of_visible looksBefore
  have sameAfter := same_of_visible looksAfter
  have declared : declaredFee extrinsic seenBefore = declaredFee extrinsic before :=
    Rules.fee_congr multiplier _ _ _
  have actual : actualFee extrinsic result seenBefore = actualFee extrinsic result before :=
    Rules.actualFee_congr multiplier _ _ _ _
  unfold Settles dust refund charge at settles ⊢
  simp only [declared, actual, sameBefore.freeBalance rules, sameAfter.freeBalance rules,
    Rules.totalFree_same sameBefore, Rules.totalFree_same sameAfter]
  exact settles

namespace Included

variable {extrinsic : Extrinsic} {outcome : DispatchOutcome} {before after : World}
variable (included : Included extrinsic outcome before after)

include included

private theorem readied_takes (plain : rules.Plain before.store) :
    rules.Plain included.stages.ready.store ∧
      rules.totalFree included.stages.ready.store + charge extrinsic before.store =
        rules.totalFree before.store ∧
      ∀ who, signer? extrinsic = some who →
        (rules.freeBalance who included.stages.ready.store).toNat + charge extrinsic before.store =
            (rules.freeBalance who before.store).toNat ∧
          included.stages.payment = some ⟨who, tip extrinsic,
            if declaredFee extrinsic before.store = 0 then none
            else some (declaredFee extrinsic before.store)⟩ := by
  rcases included.readied_cases with
    ⟨unsigned, _, same⟩ | ⟨signature, who, bears, signed, checks⟩
  · have free : charge extrinsic before.store = 0 := by
      rw [charge, unsigned]
      rfl
    rw [free, Rules.totalFree_same same]
    refine ⟨plain.same same, rfl, fun who signed => ?_⟩
    rw [unsigned] at signed
    cases signed
  · have noting := noted_same (form.codec.encode extrinsic) before
    have offers : tip extrinsic = signature.terms.tip := by rw [tip, bears]; rfl
    have declared : declaredFee extrinsic before.store =
        rules.fee (UInt32.ofNat (form.codec.encode extrinsic).length) (form.info extrinsic)
          signature.terms.tip (noted (form.codec.encode extrinsic) before).store := by
      rw [noted_fee, declaredFee, offers]
    have charges : charge extrinsic before.store = (declaredFee extrinsic before.store).toNat := by
      rw [charge, signed]
      rfl
    obtain ⟨kept, total, pays, payment⟩ := Rules.prepareSigned_takes faithful positive
      (plain.same noting) declared checks
    rw [Rules.totalFree_same noting] at total
    rw [noting.freeBalance rules who] at pays
    rw [charges]
    refine ⟨kept, total, fun payer same => ?_⟩
    rw [signed] at same
    cases same
    rw [offers]
    exact ⟨pays, payment⟩

private theorem closed_gives (plain : rules.Plain before.store)
    (called : rules.Plain included.stages.dispatched.store)
    (room : rules.totalFree included.stages.dispatched.store + charge extrinsic before.store <
      18446744073709551616) :
    rules.Plain after.store ∧
      rules.totalFree after.store =
        rules.totalFree included.stages.dispatched.store +
          refund extrinsic outcome.plain before.store after.store := by
  have noting := noteApplied_same included.notes
  have settles := included.stages.settles
  rcases included.readied_cases with
    ⟨unsigned, free, _⟩ | ⟨signature, who, _, signed, _⟩
  · have nothing : refund extrinsic outcome.plain before.store after.store = 0 := by
      rw [refund, unsigned]
      rfl
    rw [free] at settles
    obtain ⟨placed, untouched, _, ⟨_, same⟩ | ⟨_, impossible, _⟩⟩ := Rules.settle_stages settles
    · rw [← same] at untouched
      have all := untouched.trans noting
      rw [nothing, Rules.totalFree_same all]
      exact ⟨called.same all, rfl⟩
    · cases impossible
  · obtain ⟨_, payment⟩ := (included.readied_takes plain).2.2 who signed
    have charges : charge extrinsic before.store = (declaredFee extrinsic before.store).toNat := by
      rw [charge, signed]
      rfl
    have due := rules.actualFee_congr included.dispatched_multiplier
      (UInt32.ofNat (form.codec.encode extrinsic).length) (form.info extrinsic)
      (extrinsic.call.postOf outcome.plain) (tip extrinsic)
    rw [payment, dispatch_reports included.dispatched] at settles
    rw [charges] at room
    obtain ⟨kept, total, alive⟩ := Rules.settle_gives faithful quiet positive feesTaken_same called
      room settles
    refine ⟨kept.same noting, ?_⟩
    rw [Rules.totalFree_same noting, total, due, refund, signed, Option.elim_some,
      noting.freeBalance rules who]
    unfold Rules.givenBack
    simp only [alive, actualFee]

theorem settled (plain : rules.Plain before.store) :
    rules.Plain after.store ∧ Settles extrinsic outcome.plain before.store after.store := by
  obtain ⟨ready, taken, pays⟩ := included.readied_takes plain
  obtain ⟨called, burns⟩ := dispatch_burns ready included.dispatched
  have lost : ((signer? extrinsic).elim 0 fun who => extrinsic.call.burnt outcome.plain who
      (rules.freeBalance who included.stages.ready.store).toNat) =
        dust extrinsic outcome.plain before.store := by
    unfold dust
    cases signed : signer? extrinsic with
    | none => rfl
    | some who =>
        have left := (pays who signed).1
        have rest : (rules.freeBalance who included.stages.ready.store).toNat =
            (rules.freeBalance who before.store).toNat - charge extrinsic before.store := by
          omega
        rw [Option.elim_some, Option.elim_some, rest]
  have limit := plain.total_lt
  rw [lost] at burns
  obtain ⟨kept, given⟩ := included.closed_gives plain called (by omega)
  refine ⟨kept, ?_⟩
  unfold Settles
  omega

end Included

/-! ### States -/

/-- Accounts have their shape, and the sum of all balances has an upper bound. -/
structure Capped (most : Nat) (store : Store) : Prop where
  plain : rules.Plain store
  bound : rules.totalFree store ≤ most

theorem Capped.same {most : Nat} {before after : Store} (capped : Capped most before)
    (same : SameBooks before after) : Capped most after where
  plain := capped.plain.same same
  bound := by
    rw [Rules.totalFree_same same]
    exact capped.bound

private theorem capped_kept (most : Nat) : Kept (Capped most) where
  seen looks capped := capped.same (same_of_visible looks)
  begins _ run capped := capped.same (begin_same run)
  includes run capped := by
    obtain ⟨_, _, ⟨included⟩⟩ := included_of_run run
    obtain ⟨plain, settles⟩ := included.settled capped.plain
    exact ⟨plain, Nat.le_trans settles.shrinks capped.bound⟩
  seals run capped := capped.same (sealing_same run)
  validates run capped := capped.same (validateTransaction_same run)

theorem Inclusion.Under.settles {most : Nat} {inclusion : Inclusion}
    (applied : inclusion.Under (Capped most)) :
    Settles inclusion.extrinsic inclusion.result inclusion.before inclusion.after := by
  obtain ⟨before, after, looksBefore, looksAfter, run⟩ := applied.run
  obtain ⟨_, result, ⟨included⟩⟩ := included_of_run run
  have capped : Capped most before.store := (capped_kept most).seen looksBefore applied.before
  rw [result]
  exact (included.settled capped.plain).2.seen looksBefore.symm looksAfter.symm

theorem Genesis.state_plain {genesis : Genesis} {start : Store}
    (fits : Rules.sumOf genesis.balances < 18446744073709551616)
    (begun : genesis.state = .ok start) : rules.Plain start := by
  obtain ⟨orderly, lone, total, issued⟩ := Genesis.state_books begun
  refine ⟨orderly, lone, ?_⟩
  rw [issued, total]
  exact Rules.toNat_issued genesis.balances fits

/-- Every record is that of an account that its balance alone provides for, an account without a
record has nothing, and the issuance is the sum of the balances in all records. -/
structure Shapely (store : Store) : Prop where
  recorded : ∀ who, Recorded who store → ∃ info,
    (rules.accountSlot who).stored? store = some info ∧ info.Plain rules.existentialDeposit
  unrecorded : ∀ who, ¬Recorded who store → rules.freeBalance who store = 0
  issuance : (Item.totalIssuance.get store).toNat =
    ((rules.accounts.entries store).map fun row => row.2.free.toNat).sum

theorem shapely_of_plain {store : Store} (plain : rules.Plain store) : Shapely store where
  recorded _ present := plain.recorded present
  unrecorded _ absent := plain.unrecorded (Bool.eq_false_iff.mpr absent)
  issuance := plain.issuance

/-- The supply only shrinks. If the first balances are no more than can be issued, then in every state
that calls of the host lead to accounts have one shape and the issuance is the sum of their balances.
No call raises that sum, and every extrinsic that a call includes lowers it by exactly the charge that
is withdrawn, less what is given back of it, and by the dust that is burnt. -/
theorem supply_shrinks (genesis : Genesis) (start : Store) (requests : List Request)
    (fits : Rules.sumOf genesis.balances < 18446744073709551616)
    (begun : genesis.state = .ok start) (run : Run start requests) :
    Shapely start ∧ ∀ request ∈ requests,
      Shapely request.after.store ∧
      rules.totalFree request.after.store ≤ rules.totalFree request.before.store ∧
      (∀ answer, request.outcome = .ok (.ok answer) →
        request.accepted = request.inclusions.map (·.extrinsic)) ∧
      ∀ inclusion ∈ request.inclusions,
        Settles inclusion.extrinsic inclusion.result inclusion.before inclusion.after ∧
        rules.totalFree inclusion.after ≤ rules.totalFree inclusion.before := by
  have atStart := Genesis.state_plain fits begun
  refine ⟨shapely_of_plain atStart, fun request member => ?_⟩
  have opening : Capped (rules.totalFree start) start := ⟨atStart, Nat.le_refl _⟩
  obtain ⟨before, after⟩ := (capped_kept _).run opening run request member
  have through := (capped_kept _).request request ⟨before.plain, Nat.le_refl _⟩
  refine ⟨shapely_of_plain after.plain, through.bound, fun _ => Request.accepted_eq_inclusions, ?_⟩
  intro inclusion included
  have settles := ((capped_kept _).request_inclusions before inclusion included).settles
  exact ⟨settles, settles.shrinks⟩

/-- All but a hundred of what is left by the fee is given away, and the hundred is burnt. The signature
is one by the neutral point of the curve, which proves any message. -/
theorem supply_shrinks_reaped :
    ∃ (genesis : Genesis) (start : Store) (requests : List Request),
      Rules.sumOf genesis.balances < 18446744073709551616 ∧ genesis.state = .ok start ∧
      Run start requests ∧
      requests.map (fun request => request.inclusions.map fun inclusion =>
        (inclusion.result, charge inclusion.extrinsic inclusion.before,
          dust inclusion.extrinsic inclusion.result inclusion.before)) =
        [[], [(.ok (), 279626153, 100)]] ∧
      ∀ request ∈ requests, Shapely request.after.store ∧
        ∀ inclusion ∈ request.inclusions,
          Settles inclusion.extrinsic inclusion.result inclusion.before inclusion.after := by
  let who : AccountId := ⟨1 :: List.replicate 31 0, rfl⟩
  let proof : Octets 64 := ⟨1 :: List.replicate 63 0, rfl⟩
  let extrinsic : Extrinsic := ⟨some ⟨.id who, proof, ⟨.immortal, 0, 7⟩⟩,
    .balances (.transferAllowDeath (.id (.filled 32 2)) 999999720373747)⟩
  let genesis : Genesis := ⟨[(who, 1000000000000000)], .one⟩
  let start : Store := (Action.ending (rules.begin genesis) ⟨.empty, []⟩).store.flatten
  let beginning : Request :=
    ⟨"Core_initialize_block", headerCodec.encode (Header.blank 1), ⟨start, []⟩⟩
  let requests : List Request :=
    [beginning, ⟨"BlockBuilder_apply_extrinsic", form.codec.encode extrinsic, beginning.after⟩]
  have fits : Rules.sumOf genesis.balances < 18446744073709551616 := by decide +kernel
  have begun : genesis.state = .ok start := Genesis.state_of_answer (by decide +kernel)
  have run : Run start requests := ⟨rfl, rfl, trivial⟩
  have included : requests.map (fun request => request.inclusions.map fun inclusion =>
      (inclusion.result, charge inclusion.extrinsic inclusion.before,
        dust inclusion.extrinsic inclusion.result inclusion.before)) =
      [[], [(.ok (), 279626153, 100)]] := by decide +kernel
  have settled := (supply_shrinks genesis start requests fits begun run).2
  refine ⟨genesis, start, requests, fits, begun, run, included, fun request member => ?_⟩
  obtain ⟨shapely, _, _, settles⟩ := settled request member
  exact ⟨shapely, fun inclusion among => (settles inclusion among).1⟩

end StateTransition.Testnet
