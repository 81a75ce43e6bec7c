import StateTransition.Proofs.Account.Replacement
import StateTransition.Proofs.Transaction.Frame

set_option autoImplicit false

/-! What a signed transaction is charged. Before its call its nonce is used up and its declared fee
is taken; after a call that had nothing to report the actual fee is the declared one, so nothing is
given back. -/

namespace StateTransition.Rules

variable {Account Number : Type}
variable {rules : Rules Account Number} {who : Account} {world after : World}

/-! ### Fees -/

theorem feeParts_congr {left right : Store}
    (same : Item.nextMultiplier.get left = Item.nextMultiplier.get right) (length : UInt32)
    (weight : Weight) (tip : Balance) (pays : Pays) (kind : DispatchClass) :
    rules.feeParts length weight tip pays kind left =
      rules.feeParts length weight tip pays kind right := by
  unfold feeParts
  rw [same]

theorem fee_congr {left right : Store}
    (same : left.get? Item.nextMultiplier.key = right.get? Item.nextMultiplier.key)
    (length : UInt32) (info : DispatchInfo) (tip : Balance) :
    rules.fee length info tip left = rules.fee length info tip right :=
  congrArg FeeDetails.final (feeParts_congr (Slot.get_congr _ same) ..)

theorem actualFee_congr {left right : Store}
    (same : left.get? Item.nextMultiplier.key = right.get? Item.nextMultiplier.key)
    (length : UInt32) (info : DispatchInfo) (post : PostInfo) (tip : Balance) :
    rules.actualFee length info post tip left = rules.actualFee length info post tip right :=
  congrArg FeeDetails.final (feeParts_congr (Slot.get_congr _ same) ..)

theorem actualFee_unchanged (length : UInt32) (info : DispatchInfo) (tip : Balance)
    (store : Store) :
    rules.actualFee length info .unchanged tip store = rules.fee length info tip store := by
  have pays : PostInfo.unchanged.finalPays info = info.pays := by
    obtain ⟨weight, kind, pays⟩ := info
    cases pays <;> rfl
  unfold actualFee actualFeeDetails fee feeDetails
  rw [pays]
  rfl

/-! ### Single checks -/

variable [Word Number]

theorem takeNonce_stages {nonce : Number}
    (run : (rules.takeNonce who nonce).run world = .ok (.ok ()) after) :
    rules.checkNonce who nonce world.store = .ok () ∧
      ∃ counted, (rules.accountInfo who world.store).withTransaction = .ok counted ∧
        after = ⟨(rules.accountSlot who).put counted world.store, world.notes⟩ := by
  obtain ⟨_, checked, checks, counts⟩ := Attempt.bind_eq_ok run
  have looks : Action.look (rules.checkNonce who nonce) world = .ok (.ok ()) checked := checks
  rw [Action.look_run] at looks
  injection looks with allowed unmoved
  subst unmoved
  obtain ⟨counted, asked, asks, puts⟩ := Action.bind_eq_ok (Attempt.lift_eq_ok counts)
  obtain ⟨counting, rfl⟩ := Action.ask_eq_ok asks
  cases puts
  exact ⟨allowed, counted, counting, rfl⟩

variable [DecidableEq Account]

omit [DecidableEq Account] in
private theorem takeNonce_rebooked {nonce : Number}
    (run : (rules.takeNonce who nonce).run world = .ok (.ok ()) after) :
    (rules.accountInfo who world.store).isProvided = true ∧
      ∃ next : Number, Word.toNat next = Word.toNat (rules.accountInfo who world.store).nonce +
          Word.toNat (Word.one : Number) ∧
        rules.Rebooked who { rules.accountInfo who world.store with nonce := next }
          (Item.totalIssuance.get world.store) world.store after.store := by
  obtain ⟨allowed, info, counted, rfl⟩ := takeNonce_stages run
  have provided : (rules.accountInfo who world.store).isProvided = true := by
    cases missing : (rules.accountInfo who world.store).isProvided with
    | true => rfl
    | false =>
        unfold checkNonce at allowed
        dsimp only at allowed
        rw [missing] at allowed
        cases allowed
  refine ⟨provided, ?_⟩
  unfold AccountInfo.withTransaction at counted
  cases added : Word.checkedAdd? (rules.accountInfo who world.store).nonce Word.one with
  | none =>
      rw [added] at counted
      cases counted
  | some next =>
      rw [added] at counted
      cases counted
      exact ⟨next, Word.checkedAdd?_eq_some added, put_rebooked _ _⟩

/-- A fee of zero is not paid; any other is withdrawn from an account that survives it. -/
theorem payFee_stages (positive : 0 < rules.existentialDeposit) {fee : Balance}
    {paid : Option Balance} (run : (rules.payFee who fee).run world = .ok (.ok paid) after) :
    fee = 0 ∧ paid = none ∧ after = world ∨
      fee ≠ 0 ∧ paid = some fee ∧ fee.toNat ≤ (rules.freeBalance who world.store).toNat ∧
        rules.existentialDeposit ≤ Word.saturatingSub (rules.freeBalance who world.store) fee ∧
        after = ⟨rules.withdrawn who fee world.store, world.notes⟩ := by
  unfold payFee at run
  by_cases nothing : fee = 0
  · rw [if_pos nothing] at run
    obtain ⟨rfl, rfl⟩ := Attempt.pure_eq_ok run
    exact Or.inl ⟨nothing, rfl, rfl⟩
  · rw [if_neg nothing] at run
    obtain ⟨amount, withdrawn, adapts, finishes⟩ := Attempt.bind_eq_ok run
    obtain ⟨rfl, rfl⟩ := Attempt.pure_eq_ok finishes
    obtain ⟨outcome, withdraws, maps⟩ := Action.map_eq_ok adapts
    cases outcome with
    | error cause => cases maps
    | ok taken =>
        cases maps
        obtain ⟨covered, enough, rfl, rfl⟩ := (withdraw_survived positive nothing).mp withdraws
        exact Or.inr ⟨nothing, rfl, covered, enough, rfl⟩

private theorem payFee_rebooked (positive : 0 < rules.existentialDeposit)
    (provided : (rules.accountInfo who world.store).isProvided = true) {fee : Balance}
    {paid : Option Balance} (run : (rules.payFee who fee).run world = .ok (.ok paid) after) :
    paid = (if fee = 0 then none else some fee) ∧
      ∃ rest : Balance, rest.toNat + fee.toNat = (rules.freeBalance who world.store).toNat ∧
        rules.Rebooked who { rules.accountInfo who world.store with free := rest }
          (Word.saturatingSub (Item.totalIssuance.get world.store) fee) world.store
          after.store := by
  rcases payFee_stages positive run with ⟨nothing, rfl, rfl⟩ | ⟨some, rfl, covered, _, rfl⟩
  · rw [if_pos nothing, nothing, Balance.saturatingSub_zero]
    exact ⟨rfl, _, Nat.add_zero _, rebooked_of_same (SameBooks.refl _)⟩
  · have left := Balance.toNat_saturatingSub (rules.freeBalance who world.store) fee
    exact ⟨(if_neg some).symm, _, by omega, withdrawn_rebooked provided⟩

private theorem takeFee_rebooked (positive : 0 < rules.existentialDeposit)
    (provided : (rules.accountInfo who world.store).isProvided = true) {tip : Balance}
    {info : DispatchInfo} {length : Nat} {payment : Payment Account}
    (run : (rules.takeFee who tip info length).run world = .ok (.ok payment) after) :
    payment = ⟨who, tip, if rules.fee (UInt32.ofNat length) info tip world.store = 0 then none
        else some (rules.fee (UInt32.ofNat length) info tip world.store)⟩ ∧
      ∃ rest : Balance,
        rest.toNat + (rules.fee (UInt32.ofNat length) info tip world.store).toNat =
          (rules.freeBalance who world.store).toNat ∧
        rules.Rebooked who { rules.accountInfo who world.store with free := rest }
          (Word.saturatingSub (Item.totalIssuance.get world.store)
            (rules.fee (UInt32.ofNat length) info tip world.store)) world.store after.store := by
  have looked := Attempt.look_bind run
  obtain ⟨paid, ended, pays, finishes⟩ := Attempt.bind_eq_ok looked
  obtain ⟨rfl, rfl⟩ := Attempt.pure_eq_ok finishes
  obtain ⟨rfl, charged⟩ := payFee_rebooked positive provided pays
  exact ⟨rfl, charged⟩

/-! ### Before the call -/

variable {terms : Terms Number} {info : DispatchInfo} {length : Nat}
variable {payment : Option (Payment Account)} {check : Check} {checks : List Check}

private theorem forM_idle {body : Check → Attempt Rejection Unit} (idle : body check = pure ()) :
    (check :: checks).forM body = checks.forM body := by
  change (body check >>= fun _ => checks.forM body) = _
  rw [idle, pure_bind]

private theorem forM_last {body : Check → Attempt Rejection Unit} :
    [check].forM body = body check := by
  change (body check >>= fun _ => pure ()) = _
  exact bind_pure_unit

omit [DecidableEq Account] [Word Number] in
theorem prepareBare_eq : rules.prepareBare info length Check.all =
    Attempt.update (rules.takeRoom info (UInt32.ofNat length)) := by
  unfold prepareBare Check.all
  rw [forM_idle rfl, forM_idle rfl, forM_idle rfl, forM_idle rfl, forM_idle rfl, forM_idle rfl]
  change (Attempt.update (rules.takeRoom info (UInt32.ofNat length)) >>= fun _ =>
    [Check.payment].forM (rules.prepareBareCheck info length)) = _
  rw [forM_last]
  exact bind_pure_unit

theorem prepareSigned_cons
    (run : (rules.prepareSigned terms who info length (check :: checks)).run world =
      .ok (.ok payment) after) :
    ∃ first middle later,
      (rules.prepareCheck terms who info length check).run world = .ok (.ok first) middle ∧
      (rules.prepareSigned terms who info length checks).run middle = .ok (.ok later) after ∧
      payment = first.or later := by
  obtain ⟨first, middle, atFirst, others⟩ := Attempt.bind_eq_ok run
  obtain ⟨later, ended, atOthers, finishes⟩ := Attempt.bind_eq_ok others
  obtain ⟨rfl, rfl⟩ := Attempt.pure_eq_ok finishes
  exact ⟨first, middle, later, atFirst, atOthers, rfl⟩

/-- A check that only looks does nothing when it is passed. -/
theorem prepareSigned_looking
    (looks : rules.prepareCheck terms who info length check = do
      let _ ← Attempt.ask (rules.validateCheck terms who info length check)
      return none)
    (run : (rules.prepareSigned terms who info length (check :: checks)).run world =
      .ok (.ok payment) after) :
    (rules.prepareSigned terms who info length checks).run world = .ok (.ok payment) after := by
  obtain ⟨first, middle, later, atFirst, atOthers, rfl⟩ := prepareSigned_cons run
  rw [looks] at atFirst
  obtain ⟨_, asked, asks, finishes⟩ := Attempt.bind_eq_ok atFirst
  obtain ⟨_, rfl⟩ := Attempt.ask_eq_ok asks
  obtain ⟨rfl, rfl⟩ := Attempt.pure_eq_ok finishes
  exact atOthers

theorem room_apart {before after : Store}
    (spares : ∀ key, ¬Item.Under [.blockWeight, .extrinsicsLength] key →
      after.get? key = before.get? key) :
    SameBooks before after ∧
      after.get? Item.nextMultiplier.key = before.get? Item.nextMultiplier.key := by
  constructor
  · exact SameBooks.of_spares (by decide) spares
  · exact spares _ (Item.not_under_head .nextMultiplier (by decide))

theorem holdsRoom_names : HoldsRoom (Item.Under [.blockWeight, .extrinsicsLength]) where
  weight := Item.under_head .blockWeight (by decide)
  length := Item.under_head .extrinsicsLength (by decide)

omit [DecidableEq Account] [Word Number] in
private theorem takeRoom_same {length : UInt32}
    (run : (Attempt.update (rules.takeRoom info length)).run world = .ok (.ok ()) after) :
    SameBooks world.store after.store ∧
      after.store.get? Item.nextMultiplier.key = world.store.get? Item.nextMultiplier.key := by
  have isLocal : Attempt.Local _ (Attempt.update (rules.takeRoom info length)) :=
    takeRoom_local holdsRoom_names info length
  exact room_apart fun _ outside => Action.Local.spared isLocal run outside

omit [DecidableEq Account] in
private theorem takeNonce_multiplier {nonce : Number} {outcome : Except Rejection Unit}
    (run : (rules.takeNonce who nonce).run world = .ok outcome after) :
    after.store.get? Item.nextMultiplier.key = world.store.get? Item.nextMultiplier.key := by
  have isLocal : Attempt.Local (Item.Under [.account]) (rules.takeNonce who nonce) :=
    takeNonce_local (Item.under_row .account (by decide) rfl who) nonce
  exact Action.Local.spared isLocal run (Item.not_under_head .nextMultiplier (by decide))

theorem prepareSigned_stages
    (run : (rules.prepareSigned terms who info length Check.all).run world =
      .ok (.ok payment) after) :
    ∃ counted placed charge,
      (rules.takeNonce who terms.nonce).run world = .ok (.ok ()) counted ∧
      (Attempt.update (rules.takeRoom info (UInt32.ofNat length))).run counted =
        .ok (.ok ()) placed ∧
      (rules.takeFee who terms.tip info length).run placed = .ok (.ok charge) after ∧
      payment = some charge := by
  have later : (rules.prepareSigned terms who info length [.nonce, .weight, .payment]).run world =
      .ok (.ok payment) after :=
    prepareSigned_looking rfl (prepareSigned_looking rfl (prepareSigned_looking rfl
      (prepareSigned_looking rfl (prepareSigned_looking rfl run))))
  obtain ⟨_, counted, _, counts, others, rfl⟩ := prepareSigned_cons later
  obtain ⟨_, noncing, takes, finishes⟩ := Attempt.bind_eq_ok counts
  obtain ⟨rfl, rfl⟩ := Attempt.pure_eq_ok finishes
  obtain ⟨_, placed, _, places, last, rfl⟩ := prepareSigned_cons others
  obtain ⟨_, rooming, rooms, enters⟩ := Attempt.bind_eq_ok places
  obtain ⟨rfl, rfl⟩ := Attempt.pure_eq_ok enters
  obtain ⟨_, charged, _, charges, none, rfl⟩ := prepareSigned_cons last
  obtain ⟨rfl, rfl⟩ := Attempt.pure_eq_ok none
  obtain ⟨charge, paying, pays, ends⟩ := Attempt.bind_eq_ok charges
  obtain ⟨rfl, rfl⟩ := Attempt.pure_eq_ok ends
  exact ⟨counted, placed, charge, takes, rooms, pays, rfl⟩

theorem prepareSigned_charged (positive : 0 < rules.existentialDeposit)
    (run : (rules.prepareSigned terms who info length Check.all).run world =
      .ok (.ok payment) after) :
    payment = some ⟨who, terms.tip,
        if rules.fee (UInt32.ofNat length) info terms.tip world.store = 0 then none
        else some (rules.fee (UInt32.ofNat length) info terms.tip world.store)⟩ ∧
      ∃ (next : Number) (rest : Balance),
        Word.toNat next = Word.toNat (rules.accountInfo who world.store).nonce +
          Word.toNat (Word.one : Number) ∧
        rest.toNat + (rules.fee (UInt32.ofNat length) info terms.tip world.store).toNat =
          (rules.freeBalance who world.store).toNat ∧
        rules.Rebooked who
          { rules.accountInfo who world.store with nonce := next, free := rest }
          (Word.saturatingSub (Item.totalIssuance.get world.store)
            (rules.fee (UInt32.ofNat length) info terms.tip world.store)) world.store
          after.store := by
  obtain ⟨counted, placed, charge, takes, rooms, pays, rfl⟩ := prepareSigned_stages run
  obtain ⟨provided, next, follows, noted⟩ := takeNonce_rebooked takes
  obtain ⟨untouched, spared⟩ := takeRoom_same rooms
  have booked := noted.aside untouched
  have sameFee := rules.fee_congr (spared.trans (takeNonce_multiplier takes))
    (UInt32.ofNat length) info terms.tip
  have stillProvided : (rules.accountInfo who placed.store).isProvided = true := by
    rw [booked.record]
    exact provided
  obtain ⟨declared, rest, takesFee, paidFor⟩ := takeFee_rebooked positive stillProvided pays
  rw [sameFee] at declared takesFee paidFor
  rw [booked.record, booked.issuance] at paidFor
  rw [freeBalance, booked.record] at takesFee
  subst declared
  exact ⟨rfl, next, rest, follows, takesFee, booked.trans paidFor⟩

/-! ### After the call -/

variable {post : PostInfo} {failed : Bool}

private theorem correctFee_exact {charge : Payment Account} {actual : Balance}
    (passed : ∀ amount world after, rules.feesTaken amount world = .ok () after →
      SameBooks world.store after.store)
    (exact : ∀ paid, charge.paid = some paid → paid = actual)
    (run : rules.correctFee charge actual world = .ok () after) :
    SameBooks world.store after.store := by
  unfold correctFee at run
  cases paid : charge.paid with
  | none =>
      rw [paid] at run
      cases run
      exact SameBooks.refl _
  | some amount =>
      rw [paid, exact amount paid] at run
      have nothing : (Word.saturatingSub actual actual : Balance) = 0 := by
        apply UInt64.toNat_inj.mp
        rw [Balance.toNat_saturatingSub]
        exact Nat.sub_self _
      dsimp only at run
      rw [nothing] at run
      obtain ⟨refunded, back, refunds, fees⟩ := Action.bind_eq_ok run
      have unmoved : back = world := by
        cases refunds
        rfl
      subst unmoved
      obtain ⟨_, first, takesFirst, second⟩ := Action.bind_eq_ok fees
      exact (passed _ _ _ takesFirst).trans (passed _ _ _ second)

theorem settle_returns
    (run : (rules.settle payment info post length failed Check.all).run world =
      .ok (.ok ()) after) :
    payment = none ∧ after = { world with store := returnRoom info post world.store } ∨
      ∃ charge, payment = some charge ∧
        rules.settlePayment charge info post length
          { world with store := returnRoom info post world.store } = .ok () after := by
  unfold settle Check.all at run
  rw [forM_idle rfl, forM_idle rfl, forM_idle rfl, forM_idle rfl, forM_idle rfl, forM_idle rfl]
    at run
  obtain ⟨_, placed, returns, settles⟩ := Attempt.bind_eq_ok run
  rw [forM_last] at settles
  have placing : placed = { world with store := returnRoom info post world.store } := by
    unfold settleCheck at returns
    dsimp only at returns
    by_cases bad : info.kind = .mandatory ∧ failed = true
    · rw [if_pos bad] at returns
      cases returns
    · rw [if_neg bad] at returns
      have changes := Attempt.lift_eq_ok returns
      rw [Action.change_run] at changes
      cases changes
      rfl
  subst placing
  cases payment with
  | none =>
      obtain ⟨_, rfl⟩ := Attempt.pure_eq_ok settles
      exact Or.inl ⟨rfl, rfl⟩
  | some charge => exact Or.inr ⟨charge, rfl, Attempt.lift_eq_ok settles⟩

/-- The room has no part in the books. -/
theorem settle_stages
    (run : (rules.settle payment info post length failed Check.all).run world =
      .ok (.ok ()) after) :
    ∃ placed, SameBooks world.store placed.store ∧
      placed.store.get? Item.nextMultiplier.key = world.store.get? Item.nextMultiplier.key ∧
      (payment = none ∧ after = placed ∨
        ∃ charge, payment = some charge ∧
          rules.settlePayment charge info post length placed = .ok () after) := by
  have returning := returnRoom_local holdsRoom_names info post
  obtain ⟨untouched, spared⟩ := room_apart (returning.spares world.store)
  exact ⟨_, untouched, spared, settle_returns run⟩

theorem settle_failed
    (passed : ∀ amount world after, rules.feesTaken amount world = .ok () after →
      SameBooks world.store after.store)
    (exact : ∀ charge ∈ payment, ∀ paid, charge.paid = some paid →
      paid = rules.fee (UInt32.ofNat length) info charge.tip world.store)
    (run : (rules.settle payment info .unchanged length failed Check.all).run world =
      .ok (.ok ()) after) : SameBooks world.store after.store := by
  obtain ⟨placed, untouched, spared, ⟨_, rfl⟩ | ⟨charge, rfl, settles⟩⟩ := settle_stages run
  · exact untouched
  · have corrects := Action.look_bind settles
    rw [actualFee_unchanged, fee_congr spared] at corrects
    obtain ⟨_, corrected, correction, deposits⟩ := Action.bind_eq_ok corrects
    have corrected := correctFee_exact passed (exact charge rfl) correction
    exact (untouched.trans corrected).trans (deposit_same deposits)

end StateTransition.Rules
