import StateTransition.Proofs.Account.Nonce
import StateTransition.Proofs.Call
import StateTransition.Proofs.Transaction.Admission

set_option autoImplicit false

/-! What becomes of nonces in a transaction. Its checks use up one nonce of its signer; its call and
the settling of its fee write the same record once more, and keep the nonce as long as there is a
record. -/

namespace StateTransition.Rules

variable {Account Number Index : Type} [Word Number]
variable {rules : Rules Account Number} {who : Account} {before : Store} {world after : World}

/-! ### Before the call -/

/-- What is left of a balance that can pay a fee is a balance if and only if there was one. -/
theorem Orderly.paid {fee : Balance} (orderly : rules.Orderly before)
    (positive : 0 < rules.existentialDeposit) (pays : rules.canPay who fee before = true) :
    let rest : Balance := Word.saturatingSub (rules.freeBalance who before) fee
    (rest ≠ 0 → rules.existentialDeposit ≤ rest) ∧
      AccountInfo.providing rest = AccountInfo.providing (rules.freeBalance who before) := by
  dsimp only
  by_cases nothing : fee = 0
  · rw [nothing, Balance.saturatingSub_zero]
    exact ⟨orderly.sound.floor who, rfl⟩
  · have enough := ((canPay_iff nothing).mp pays).2
    have some := ne_zero_of_enough positive enough
    have had : rules.freeBalance who before ≠ 0 := by
      intro none
      apply some
      apply UInt64.toNat_inj.mp
      rw [none, Balance.toNat_saturatingSub]
      exact Nat.zero_sub _
    refine ⟨fun _ => enough, ?_⟩
    rw [AccountInfo.providing, AccountInfo.providing, if_neg some, if_neg had]

/-- An account has used up a nonce, and no other account has. -/
structure Spent (rules : Rules Account Number) (who : Account) (before after : Store) : Prop where
  provided : (rules.accountInfo who before).isProvided = true
  next : Word.toNat (rules.nonce who after) =
    Word.toNat (rules.nonce who before) + Word.toNat (Word.one : Number)
  others : ∀ other, other ≠ who → rules.nonce other after = rules.nonce other before

variable {terms : Terms Number} {info : DispatchInfo} {length : Nat}
variable {payment : Option (Payment Account)}
variable (reads : rules.account.Faithful fun _ => True)

include reads

variable [DecidableEq Account]

/-- Who passes all checks has signed with the next nonce, which is used up with that. -/
theorem prepareSigned_spends (positive : 0 < rules.existentialDeposit)
    (orderly : rules.Orderly world.store)
    (run : (rules.prepareSigned terms who info length Check.all).run world =
      .ok (.ok payment) after) :
    terms.nonce = rules.nonce who world.store ∧ rules.Spent who world.store after.store ∧
      rules.Orderly after.store := by
  obtain ⟨_, provided, same, next, room, weight, added, _, pays, _, rfl⟩ :=
    (prepareSigned_all_iff positive rfl).mp run
  generalize rules.fee (UInt32.ofNat length) info terms.tip world.store = fee at pays ⊢
  obtain ⟨floor, providing⟩ := orderly.paid positive pays
  have counts : rules.Rebooked who { rules.accountInfo who world.store with nonce := next }
      (Item.totalIssuance.get world.store) world.store (rules.counted who next world.store) :=
    put_rebooked _ _
  have ready := counts.aside (roomed_same room weight _)
  have booked := ready.trans (charged_rebooked fee _)
  rw [freeBalance, ready.record, ready.issuance] at booked
  refine ⟨same, ⟨provided, ?_, fun other => booked.nonce_elsewhere reads⟩, ?_, ?_⟩
  · rw [nonce, booked.record, nonce, ← same]
    exact Word.checkedAdd?_eq_some added
  · apply orderly.sound.rebooked reads booked floor _ fun _ _ => rfl
    change (rules.accountInfo who world.store).providers.toNat = 0 + AccountInfo.providing _
    rw [orderly.sound.provided who, ← providing]
    rfl
  · intro other
    by_cases it : other = who
    · subst it
      intro _
      rw [booked.record]
      exact provided
    · exact booked.supported reads it (orderly.supported other)

/-! ### The call -/

/-- What a call on balances makes of nonces: it keeps all of them, unless its signer gives away all
it has and may die of it. -/
theorem runBalanceCall_nonces (quiet : rules.Quiet) (positive : 0 < rules.existentialDeposit)
    {signer : Option Account} {call : BalanceCall (Address Account Index)} {post : PostInfo}
    (orderly : rules.Orderly world.store)
    (run : (rules.runBalanceCall (.ofSigner signer) call).run world = .ok (.ok post) after) :
    rules.Orderly after.store ∧
      ∀ who, rules.nonce who after.store = rules.nonce who world.store ∨
        signer = some who ∧ (∃ target amount, call = .transferAllowDeath target amount) ∧
          rules.accountInfo who after.store = .blank := by
  obtain ⟨source, target, amount, existence, rfl, sends⟩ := runBalanceCall_sends run
  obtain ⟨tidy, nonces⟩ := transfer_nonces reads quiet positive orderly sends.run
  refine ⟨tidy, fun who => (nonces who).imp id ?_⟩
  rintro ⟨rfl, dies, blank⟩
  obtain ⟨address, _, ⟨_, called⟩ | ⟨lives, _⟩⟩ := sends.called
  · exact ⟨rfl, ⟨address, amount, called⟩, blank⟩
  · rw [dies] at lives
    cases lives

/-! ### After the call -/

variable {post : PostInfo} {failed : Bool}

omit reads

/-- What is given back of a fee goes to a balance that there still is; where nothing is given back
there is no balance, or nothing to give back, or no balance could take it. -/
theorem correctFee_cases (quiet : rules.Quiet)
    (passed : ∀ amount world after, rules.feesTaken amount world = .ok () after →
      SameBooks world.store after.store)
    {charge : Payment Account} {actual : Balance} (positive : 0 < rules.existentialDeposit)
    (orderly : rules.Orderly world.store)
    (run : rules.correctFee charge actual world = .ok () after) :
    let refund : Balance := Word.saturatingSub (charge.paid.getD 0) actual
    SameBooks world.store after.store ∧ (rules.freeBalance charge.who world.store = 0 ∨
        refund.toNat = 0 ∨
        18446744073709551616 ≤ (rules.freeBalance charge.who world.store).toNat + refund.toNat) ∨
      ∃ kept : Balance, rules.freeBalance charge.who world.store ≠ 0 ∧
        kept.toNat = (rules.freeBalance charge.who world.store).toNat + refund.toNat ∧
        rules.existentialDeposit ≤ kept ∧
        rules.Refilled charge.who kept
          (Word.saturatingAdd (Item.totalIssuance.get world.store) refund) world.store
          after.store := by
  unfold correctFee at run
  cases paid : charge.paid with
  | none =>
      rw [paid] at run
      cases run
      refine Or.inl ⟨SameBooks.refl _, Or.inr (Or.inl ?_)⟩
      exact (Balance.toNat_saturatingSub _ _).trans (Nat.zero_sub _)
  | some amount =>
      rw [paid] at run
      dsimp only at run
      dsimp only [Option.getD_some]
      generalize (Word.saturatingSub amount actual : Balance) = refund at run ⊢
      obtain ⟨_, back, refunds, fees⟩ := Action.bind_eq_ok run
      obtain ⟨_, first, takesFirst, takesSecond⟩ := Action.bind_eq_ok fees
      have taken := (passed _ _ _ takesFirst).trans (passed _ _ _ takesSecond)
      have enough : ∀ sum : Balance, rules.freeBalance charge.who world.store ≠ 0 →
          sum.toNat = (rules.freeBalance charge.who world.store).toNat + refund.toNat →
          rules.existentialDeposit ≤ sum := by
        intro sum had adds
        have least := UInt64.le_iff_toNat_le.mp (orderly.sound.floor _ had)
        rw [UInt64.le_iff_toNat_le]
        omega
      rcases createInExisting_cases quiet (orderly.sound.isProvided charge.who) refunds with
        ⟨sum, adds, had, refilled⟩ | ⟨untouched, full⟩
      · have above := enough sum had adds
        rw [withoutDust_whole fun _ => above, Option.getD_none, Balance.saturatingSub_zero]
          at refilled
        exact Or.inr ⟨sum, had, adds, above, refilled.aside taken⟩
      · refine Or.inl ⟨untouched.trans taken, ?_⟩
        by_cases dead : rules.freeBalance charge.who world.store = 0
        · exact Or.inl dead
        by_cases nothing : refund = 0
        · refine Or.inr (Or.inl ?_)
          rw [nothing]
          rfl
        refine Or.inr (Or.inr (Nat.le_of_not_lt fun room => ?_))
        have adds := Balance.toNat_saturatingAdd room
        have above := enough _ dead adds
        have lost := full dead nothing _ adds
        rw [withoutDust_whole fun _ => above] at lost
        exact ne_zero_of_enough positive above lost

include reads

theorem settle_nonces (quiet : rules.Quiet) (positive : 0 < rules.existentialDeposit)
    (passed : ∀ amount world after, rules.feesTaken amount world = .ok () after →
      SameBooks world.store after.store)
    (orderly : rules.Orderly world.store)
    (run : (rules.settle payment info post length failed Check.all).run world =
      .ok (.ok ()) after) :
    rules.Orderly after.store ∧
      ∀ who, rules.nonce who after.store = rules.nonce who world.store ∧
        (rules.accountInfo who world.store = .blank →
          rules.accountInfo who after.store = .blank) := by
  have kept : ∀ {left right : Store}, SameBooks left right → ∀ who,
      rules.nonce who right = rules.nonce who left ∧
        (rules.accountInfo who left = .blank → rules.accountInfo who right = .blank) :=
    fun same who => ⟨nonce_same same who, fun blank => (same.accountInfo rules who).trans blank⟩
  obtain ⟨placed, untouched, _, ⟨_, rfl⟩ | ⟨charge, _, settles⟩⟩ := settle_stages run
  · exact ⟨orderly.same untouched, kept untouched⟩
  have corrects := Action.look_bind settles
  obtain ⟨_, corrected, correction, deposits⟩ := Action.bind_eq_ok corrects
  have logged := deposit_same deposits
  have tidy := orderly.same untouched
  rcases correctFee_cases quiet passed positive tidy correction with
    ⟨same, _⟩ | ⟨free, had, _, enough, refilled⟩
  · have all := (untouched.trans same).trans logged
    exact ⟨orderly.same all, kept all⟩
  have given := refilled.aside logged
  refine ⟨tidy.refilled reads given fun _ => enough, fun who => ?_⟩
  obtain ⟨earlier, stillBlank⟩ := kept untouched who
  by_cases it : who = charge.who
  · subst it
    refine ⟨?_, fun blank => ?_⟩
    · rcases given.nonce with same | ⟨_, none⟩
      · exact same.trans earlier
      · exact absurd none (ne_zero_of_enough positive enough)
    · rw [freeBalance, stillBlank blank] at had
      exact absurd rfl had
  · have there : rules.accountInfo who after.store = rules.accountInfo who placed.store :=
      given.booked.elsewhere reads it
    exact ⟨(congrArg AccountInfo.nonce there).trans earlier,
      fun blank => there.trans (stillBlank blank)⟩

end StateTransition.Rules
