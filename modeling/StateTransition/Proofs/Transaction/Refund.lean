import StateTransition.Proofs.Account.Ledger
import StateTransition.Proofs.Account.Refusal
import StateTransition.Proofs.Transaction.Charge
import StateTransition.Proofs.Weight

set_option autoImplicit false

/-! Fees that are declared, paid and settled. What a call costs in the end is never more than what
was declared, so what was paid covers it. The rest goes back to the payer if the payer still has a
balance that can take it; what has been kept goes to those who receive fees, the tip apart. -/

namespace StateTransition

/-! ### What a call costs -/

theorem FeeRule.fee_mono (rule : FeeRule Balance) {lighter heavier : Weight}
    (order : lighter.along .time ≤ heavier.along .time) :
    (rule.fee lighter).toNat ≤ (rule.fee heavier).toNat := by
  have converted : (Word.convert lighter.refTime : Balance).toNat ≤
      (Word.convert heavier.refTime : Balance).toNat := @Word.toNat_clamp_mono Balance _ _ _ order
  cases rule with
  | identity => exact converted
  | multiple factor =>
      exact @Word.toNat_clamp_mono Balance _ _ _ (Nat.mul_le_mul_right _ converted)

private theorem Fixed.times_mono (number : Fixed) {lower upper : Balance}
    (order : lower.toNat ≤ upper.toNat) :
    (number.times lower).toNat ≤ (number.times upper).toNat :=
  @Word.toNat_clamp_mono Balance _ _ _ (Nat.div_le_div_right (Nat.mul_le_mul_left _ order))

private theorem Balance.rest_of_rest {fee actual : Balance} (less : actual ≤ fee) :
    Word.saturatingSub fee (Word.saturatingSub fee actual) = actual := by
  have order := UInt64.le_iff_toNat_le.mp less
  apply UInt64.toNat_inj.mp
  rw [Balance.toNat_saturatingSub, Balance.toNat_saturatingSub]
  omega

namespace Rules

variable {Account Number : Type}
variable {rules : Rules Account Number} {who : Account} {world after : World}

private theorem feeOfWeight_mono {lighter heavier : Weight} (within : lighter.Within heavier) :
    (rules.feeOfWeight lighter).toNat ≤ (rules.feeOfWeight heavier).toNat := by
  apply FeeRule.fee_mono
  rw [Weight.along_lesser, Weight.along_lesser]
  have order := within .time
  omega

theorem feeParts_mono {lighter heavier : Weight} (within : lighter.Within heavier)
    {pays declared : Pays} (waived : pays = .yes → declared = .yes) (length : UInt32)
    (tip : Balance) (kind : DispatchClass) (store : Store) :
    (rules.feeParts length lighter tip pays kind store).final.toNat ≤
      (rules.feeParts length heavier tip declared kind store).final.toNat := by
  cases pays with
  | no =>
      cases declared with
      | no => exact Nat.le_refl _
      | yes => exact @Word.saturatingAdd_mono Balance _ _ _ _ _ (Nat.zero_le _) (Nat.le_refl tip.toNat)
  | yes =>
      rw [waived rfl]
      refine @Word.saturatingAdd_mono Balance _ _ _ _ _ ?_ (Nat.le_refl tip.toNat)
      refine @Word.saturatingAdd_mono Balance _ _ _ _ _ (Nat.le_refl _) ?_
      exact Fixed.times_mono _ (feeOfWeight_mono within)

/-- A report can lower the weight that counts, and it can waive the fee. -/
theorem actualFee_le (rules : Rules Account Number) (length : UInt32) (info : DispatchInfo)
    (post : PostInfo) (tip : Balance) (store : Store) :
    rules.actualFee length info post tip store ≤ rules.fee length info tip store := by
  rw [UInt64.le_iff_toNat_le]
  refine feeParts_mono (fun dimension => (post.along_unspent info dimension).1) ?_ _ _ _ _
  intro pays
  unfold PostInfo.finalPays at pays
  cases declared : info.pays with
  | yes => rfl
  | no =>
      rw [declared] at pays
      cases pays

/-! ### Before the call -/

variable {info : DispatchInfo} {post : PostInfo} {tip : Balance} {length : Nat}
variable {payment : Payment Account}

variable [DecidableEq Account]

variable [Word Number]

private theorem withdrawn_multiplier (amount : Balance) (store : Store) :
    Item.nextMultiplier.get (rules.withdrawn who amount store) =
      Item.nextMultiplier.get store := by
  let names : List Item.Name := [.account, .totalIssuance, .events, .eventCount]
  have log : HoldsLog (Item.Under names) :=
    ⟨Item.under_head .events (by decide), Item.under_head .eventCount (by decide)⟩
  have record : Item.Under names (rules.accountSlot who).key :=
    Item.under_row .account (by decide) rfl who
  have issuance : Item.Under names Item.totalIssuance.key :=
    Item.under_head .totalIssuance (by decide)
  have apart : ¬Item.Under names Item.nextMultiplier.key :=
    Item.not_under_head .nextMultiplier (by decide)
  apply Slot.get_congr
  rw [withdrawn, (recordEvent_local log _ _).spares _ _ apart, destroyed,
    (Slot.put_local issuance _).spares _ _ apart, (putFree_local record _).spares _ _ apart]

private theorem takeFee_stages (positive : 0 < rules.existentialDeposit)
    (run : (rules.takeFee who tip info length).run world = .ok (.ok payment) after) :
    let fee := rules.fee (UInt32.ofNat length) info tip world.store
    payment = ⟨who, tip, if fee = 0 then none else some fee⟩ ∧
      Item.nextMultiplier.get after.store = Item.nextMultiplier.get world.store ∧
      ((rules.accountInfo who world.store).isProvided = true →
        (rules.freeBalance who after.store).toNat + fee.toNat =
          (rules.freeBalance who world.store).toNat) := by
  have looked := Attempt.look_bind run
  obtain ⟨paid, ended, pays, finishes⟩ := Attempt.bind_eq_ok looked
  obtain ⟨rfl, rfl⟩ := Attempt.pure_eq_ok finishes
  dsimp only
  rcases payFee_stages positive pays with ⟨nothing, rfl, rfl⟩ | ⟨some, rfl, covered, _, rfl⟩
  · rw [if_pos nothing, nothing]
    exact ⟨rfl, rfl, fun _ => rfl⟩
  · rw [if_neg some]
    refine ⟨rfl, withdrawn_multiplier _ _, fun provided => ?_⟩
    have left := Balance.toNat_saturatingSub (rules.freeBalance who world.store)
      (rules.fee (UInt32.ofNat length) info tip world.store)
    rw [freeBalance, (withdrawn_rebooked provided).record]
    dsimp only
    omega

/-! ### After the call -/

/-- What goes back of an amount to the one who paid it. -/
def returned (rules : Rules Account Number) (who : Account) (amount : Balance) (store : Store) :
    Balance :=
  if rules.CanTake who amount store then amount else 0

/-- The world in which an amount has gone back; if it is none, nothing was done. -/
def afterReturn (rules : Rules Account Number) (who : Account) (amount : Balance) (world : World) :
    World :=
  if amount = 0 then world else ⟨rules.credited who amount world.store, world.notes⟩

/-- Passes on what was kept of a payment, the tip apart from the fee. -/
def passOn (rules : Rules Account Number) (tip kept : Balance) : Action Unit := do
  rules.feesTaken (Word.saturatingSub kept (min tip kept))
  rules.feesTaken (min tip kept)

private theorem createInExisting_returned (who : Account) (positive : 0 < rules.existentialDeposit)
    (held : rules.Held world.store) (amount : Balance) :
    ∃ outcome, (rules.createInExisting who amount).run world = .ok outcome
        (rules.afterReturn who (rules.returned who amount world.store) world) ∧
      outcome.toOption.getD 0 = rules.returned who amount world.store := by
  by_cases nothing : amount = 0
  · have none : rules.returned who amount world.store = 0 := by
      rw [returned, nothing, ite_self]
    refine ⟨.ok 0, ?_, none.symm⟩
    rw [none, afterReturn, if_pos rfl, createInExisting, if_pos nothing]
    rfl
  by_cases takes : rules.CanTake who amount world.store
  · refine ⟨.ok amount, ?_, (if_pos takes).symm⟩
    rw [createInExisting_taken positive held nothing takes, returned, if_pos takes, afterReturn,
      if_neg nothing]
  · obtain ⟨cause, refused⟩ := createInExisting_untaken nothing takes
    refine ⟨.error cause, ?_, (if_neg takes).symm⟩
    rw [refused, returned, if_neg takes, afterReturn, if_pos rfl]

private theorem correctFee_run (positive : 0 < rules.existentialDeposit)
    (held : rules.Held world.store) {paid : Balance} (isPaid : payment.paid = some paid)
    (actual : Balance) :
    let back := rules.returned payment.who (Word.saturatingSub paid actual) world.store
    rules.correctFee payment actual world =
      rules.passOn payment.tip (Word.saturatingSub paid back)
        (rules.afterReturn payment.who back world) := by
  obtain ⟨outcome, refunds, answered⟩ :=
    createInExisting_returned payment.who positive held (Word.saturatingSub paid actual)
  unfold correctFee
  rw [isPaid]
  dsimp only
  rw [Action.bind_run_ok refunds, answered]
  rfl

private theorem settlePayment_run (positive : 0 < rules.existentialDeposit)
    (held : rules.Held world.store) {paid actual : Balance} (isPaid : payment.paid = some paid)
    (costs : rules.actualFee (UInt32.ofNat length) info post payment.tip world.store = actual) :
    let back := rules.returned payment.who (Word.saturatingSub paid actual) world.store
    rules.settlePayment payment info post length world = (do
      rules.passOn payment.tip (Word.saturatingSub paid back)
      rules.deposit (.feePaid payment.who actual payment.tip))
        (rules.afterReturn payment.who back world) := by
  have looks : Action.look (rules.actualFee (UInt32.ofNat length) info post payment.tip) world =
      .ok actual world := congrArg (EStateM.Result.ok · world) costs
  have corrects := correctFee_run positive held isPaid actual
  dsimp only at corrects ⊢
  unfold settlePayment
  rw [Action.bind_run_ok looks, Action.bind_run, corrects, ← Action.bind_run]

private theorem settlePayment_unpaid (unpaid : payment.paid = none) {actual : Balance}
    (costs : rules.actualFee (UInt32.ofNat length) info post payment.tip world.store = actual) :
    rules.settlePayment payment info post length world =
      rules.deposit (.feePaid payment.who actual payment.tip) world := by
  have looks : Action.look (rules.actualFee (UInt32.ofNat length) info post payment.tip) world =
      .ok actual world := congrArg (EStateM.Result.ok · world) costs
  unfold settlePayment correctFee
  rw [Action.bind_run_ok looks, unpaid]
  rfl

private theorem freeBalance_afterReturn (held : rules.Held world.store) {amount : Balance}
    (takes : rules.CanTake who amount world.store) :
    (rules.freeBalance who (rules.afterReturn who amount world).store).toNat =
      (rules.freeBalance who world.store).toNat + amount.toNat := by
  unfold afterReturn
  by_cases nothing : amount = 0
  · rw [if_pos nothing, nothing]
    rfl
  · rw [if_neg nothing]
    dsimp only
    rw [freeBalance, (credited_rebooked (held.isProvided who takes.1)).record]
    exact Balance.toNat_saturatingAdd takes.2

/-- Where the rest above the actual fee goes back, that fee is kept. -/
theorem kept_of_taken (held : rules.Held world.store) {paid actual : Balance}
    (less : actual ≤ paid) (takes : rules.CanTake who (Word.saturatingSub paid actual) world.store) :
    let back := rules.returned who (Word.saturatingSub paid actual) world.store
    Word.saturatingSub paid back = actual ∧
      (rules.freeBalance who (rules.afterReturn who back world).store).toNat =
        (rules.freeBalance who world.store).toNat + back.toNat := by
  rw [returned, if_pos takes]
  exact ⟨Balance.rest_of_rest less, freeBalance_afterReturn held takes⟩

omit [DecidableEq Account] in
private theorem returned_of_full {amount : Balance} {store : Store}
    (full : rules.freeBalance who store = 0 ∨
      18446744073709551616 ≤ (rules.freeBalance who store).toNat + amount.toNat) :
    rules.returned who amount store = 0 := by
  refine if_neg ?_
  rintro ⟨had, room⟩
  rcases full with none | excess
  · exact had none
  · exact Nat.not_lt.mpr excess room

/-- The actual fee is never above the declared one. To charge the one and to give back the rest is to
charge the other: what stays withdrawn is the actual fee if the payer has a balance that can take the
rest; else nothing is given back. What was kept is passed on, the tip apart from the fee. -/
theorem settled_at_actual_fee (rules : Rules Account Number) :
    (∀ length info post tip store,
        rules.actualFee length info post tip store ≤ rules.fee length info tip store) ∧
      ∀ who tip info post length world middle changed payment,
        0 < rules.existentialDeposit →
        (rules.takeFee who tip info length).run world = .ok (.ok payment) middle →
        Item.nextMultiplier.get changed.store = Item.nextMultiplier.get middle.store →
        rules.Held changed.store →
        let fee := rules.fee (UInt32.ofNat length) info tip world.store
        let actual := rules.actualFee (UInt32.ofNat length) info post tip world.store
        let settled := rules.settlePayment payment info post length changed
        let rest : Balance := Word.saturatingSub fee actual
        ((rules.accountInfo who world.store).isProvided = true →
            (rules.freeBalance who middle.store).toNat + fee.toNat =
              (rules.freeBalance who world.store).toNat) ∧
          (fee = 0 → actual = 0 ∧ settled = rules.deposit (.feePaid who actual tip) changed) ∧
          (fee ≠ 0 → ∃ (back : Balance) (given : World),
            let net : Balance := Word.saturatingSub fee back
            settled = (do
                rules.feesTaken (Word.saturatingSub net (min tip net))
                rules.feesTaken (min tip net)
                rules.deposit (.feePaid who actual tip)) given ∧
              (rules.freeBalance who changed.store ≠ 0 →
                (rules.freeBalance who changed.store).toNat + rest.toNat < 18446744073709551616 →
                  net = actual ∧
                    (rules.freeBalance who given.store).toNat =
                      (rules.freeBalance who changed.store).toNat + back.toNat) ∧
              (rules.freeBalance who changed.store = 0 ∨
                  18446744073709551616 ≤
                    (rules.freeBalance who changed.store).toNat + rest.toNat →
                back = 0 ∧ given = changed)) := by
  refine ⟨actualFee_le rules, ?_⟩
  intro who tip info post length world middle changed payment positive charges multiplier held
  obtain ⟨rfl, same, left⟩ := takeFee_stages positive charges
  have costs : rules.actualFee (UInt32.ofNat length) info post tip changed.store =
      rules.actualFee (UInt32.ofNat length) info post tip world.store :=
    congrArg FeeDetails.final (feeParts_congr (multiplier.trans same) ..)
  have less := actualFee_le rules (UInt32.ofNat length) info post tip world.store
  dsimp only at left ⊢
  generalize rules.fee (UInt32.ofNat length) info tip world.store = fee at less left ⊢
  generalize rules.actualFee (UInt32.ofNat length) info post tip world.store = actual at costs less ⊢
  refine ⟨left, ?_, ?_⟩
  · rintro rfl
    refine ⟨UInt64.toNat_inj.mp (Nat.le_zero.mp (UInt64.le_iff_toNat_le.mp less)), ?_⟩
    rw [if_pos rfl]
    exact settlePayment_unpaid rfl costs
  · intro paid
    rw [if_neg paid]
    let payment : Payment Account := ⟨who, tip, some fee⟩
    have isPaid : payment.paid = some fee := rfl
    have settles := settlePayment_run positive held isPaid costs
    dsimp only at settles
    rw [passOn, bind_assoc] at settles
    refine ⟨rules.returned who (Word.saturatingSub fee actual) changed.store,
      rules.afterReturn who (rules.returned who (Word.saturatingSub fee actual) changed.store) changed,
      settles, ?_, ?_⟩
    · intro had room
      exact kept_of_taken held less ⟨had, room⟩
    · intro full
      rw [returned_of_full full, afterReturn, if_pos rfl]
      exact ⟨rfl, rfl⟩

/-- A call is declared with more weight than it uses, and its payer spends most of what it has in
between: the fee for the rest of the weight goes back to what there still is. -/
theorem settled_at_actual_fee_of_spender :
    let who : AccountId := .filled 32 1
    let info : DispatchInfo := ⟨⟨1000, 0⟩, .normal, .yes⟩
    let post : PostInfo := ⟨some ⟨400, 0⟩, .yes⟩
    ∃ world middle changed : World, ∃ payment,
      (Testnet.rules.takeFee who 3 info 10).run world = .ok (.ok payment) middle ∧
        ∃ (back : Balance) (given : World),
          Word.saturatingSub (Testnet.rules.fee 10 info 3 world.store) back =
              Testnet.rules.actualFee 10 info post 3 world.store ∧
            (Testnet.rules.freeBalance who given.store).toNat =
              (Testnet.rules.freeBalance who changed.store).toNat + back.toNat := by
  intro who info post
  let endow := Testnet.rules.endow [(who, 1000000000000000)]
  let spend := Testnet.rules.endow [(who, 700)]
  let world := Action.ending endow ⟨.empty, []⟩
  let changed := Action.ending spend ⟨.empty, []⟩
  let charge := (Testnet.rules.takeFee who 3 info 10).run
  let middle := Action.ending charge world
  have spends : spend ⟨.empty, []⟩ = .ok (.ok ()) changed :=
    Action.run_of_answer_ok (by decide +kernel)
  obtain ⟨payment, charges⟩ : ∃ payment, charge world = .ok (.ok payment) middle :=
    ⟨⟨who, 3, some (Testnet.rules.fee 10 info 3 world.store)⟩,
      Action.run_of_answer_ok (by decide +kernel)⟩
  have reads : Testnet.rules.account.Faithful fun _ => True := Codec.octets_faithful 32
  obtain ⟨sound, _⟩ := endow_sound reads Testnet.quiet (by decide) (by decide +kernel) spends
  obtain ⟨_, _, settles⟩ := (settled_at_actual_fee Testnet.rules).2 who 3 info post 10 world middle
    changed payment (by decide) charges (by decide +kernel) sound.held
  obtain ⟨back, given, _, returns, _⟩ := settles (by decide +kernel)
  obtain ⟨net, balance⟩ := returns (by decide +kernel) (by decide +kernel)
  exact ⟨world, middle, changed, payment, charges, back, given, net, balance⟩

end Rules

end StateTransition
