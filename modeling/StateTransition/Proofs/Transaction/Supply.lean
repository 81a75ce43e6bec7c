import StateTransition.Proofs.Account.Shape
import StateTransition.Proofs.Transaction.Nonce

set_option autoImplicit false

/-! What becomes of the sum of all balances in a transaction. Its checks take the declared fee out of
it and its call may burn what is too little to be left; settling the fee puts back what was too much
of it, if there still is a balance that it was taken from. -/

namespace StateTransition.Rules

variable {Account Number Index : Type} [DecidableEq Account] [Word Number]
variable {rules : Rules Account Number} {who : Account} {world after : World}
variable {terms : Terms Number} {info : DispatchInfo} {length : Nat}
variable (reads : rules.account.Faithful fun _ => True) (quiet : rules.Quiet)
variable (positive : 0 < rules.existentialDeposit)

include reads

/-! ### Before the call -/

include positive in
theorem prepareSigned_takes {payment : Option (Payment Account)} {fee : Balance}
    (plain : rules.Plain world.store)
    (declared : fee = rules.fee (UInt32.ofNat length) info terms.tip world.store)
    (run : (rules.prepareSigned terms who info length Check.all).run world =
      .ok (.ok payment) after) :
    rules.Plain after.store ∧
      rules.totalFree after.store + fee.toNat = rules.totalFree world.store ∧
      (rules.freeBalance who after.store).toNat + fee.toNat =
        (rules.freeBalance who world.store).toNat ∧
      payment = some ⟨who, terms.tip, if fee = 0 then none else some fee⟩ := by
  obtain ⟨_, _, orderly⟩ := prepareSigned_spends reads positive plain.orderly run
  obtain ⟨charge, next, rest, _, takes, booked⟩ := prepareSigned_charged positive run
  rw [← declared] at charge takes booked
  have total := booked.total reads
  have lone := plain.unreferenced who
  have kept : rules.freeBalance who after.store = rest := congrArg AccountInfo.free booked.record
  dsimp only at total
  refine ⟨⟨orderly, booked.unreferenced reads plain.unreferenced ⟨lone.consumers, lone.sufficients⟩,
    ?_⟩, ?_, ?_, charge⟩
  · have equal := plain.issuance
    rw [booked.issuance, Balance.toNat_saturatingSub]
    omega
  · omega
  · rw [kept]
    exact takes

/-! ### The call -/

include quiet positive

/-- What a call on balances burns if it succeeds, where its signer has so much. -/
def burnt (rules : Rules Account Number) (signer : Account) (free : Nat) :
    BalanceCall (Address Account Index) → Nat
  | .transferAllowDeath address amount =>
      address.resolve?.elim 0 fun target => rules.residue signer target amount free
  | _ => 0

theorem runBalanceCall_burns {signer : Option Account}
    {call : BalanceCall (Address Account Index)} {post : PostInfo}
    (plain : rules.Plain world.store)
    (run : (rules.runBalanceCall (.ofSigner signer) call).run world = .ok (.ok post) after) :
    rules.Plain after.store ∧ ∃ who, signer = some who ∧
      rules.totalFree after.store +
          rules.burnt who (rules.freeBalance who world.store).toNat call =
        rules.totalFree world.store := by
  obtain ⟨source, target, amount, existence, signs, sends⟩ := runBalanceCall_sends run
  obtain ⟨kept, total, spared⟩ := transfer_burns reads quiet positive plain sends.run
  obtain ⟨address, resolves, ⟨_, rfl⟩ | ⟨lives, rfl⟩⟩ := sends.called
  · refine ⟨kept, source, signs, ?_⟩
    rw [burnt, resolves]
    exact total
  · rw [spared lives] at total
    exact ⟨kept, source, signs, total⟩

/-! ### After the call -/

/-- What is given back to an account of what was paid, after a call that has left a balance or not. -/
def givenBack (free paid actual : Balance) : Nat :=
  if free = 0 then 0 else paid.toNat - actual.toNat

theorem correctFee_gives
    (passed : ∀ amount world after, rules.feesTaken amount world = .ok () after →
      SameBooks world.store after.store)
    {charge : Payment Account} {actual paid : Balance} (known : charge.paid.getD 0 = paid)
    (plain : rules.Plain world.store)
    (room : rules.totalFree world.store + paid.toNat < 18446744073709551616)
    (run : rules.correctFee charge actual world = .ok () after) :
    rules.Plain after.store ∧
      rules.totalFree after.store =
        rules.totalFree world.store +
          givenBack (rules.freeBalance charge.who world.store) paid actual ∧
      (rules.freeBalance charge.who after.store = 0 ↔
        rules.freeBalance charge.who world.store = 0) := by
  have refund : (Word.saturatingSub paid actual : Balance).toNat = paid.toNat - actual.toNat :=
    Balance.toNat_saturatingSub paid actual
  have covered := free_le_total reads charge.who world.store
  have ways := correctFee_cases quiet passed positive plain.orderly run
  dsimp only at ways
  rw [known, refund] at ways
  rcases ways with ⟨same, nothing⟩ | ⟨kept, had, adds, enough, refilled⟩
  · have none : givenBack (rules.freeBalance charge.who world.store) paid actual = 0 := by
      unfold givenBack
      by_cases dead : rules.freeBalance charge.who world.store = 0
      · rw [if_pos dead]
      · rw [if_neg dead]
        rcases nothing with dead' | exact | full
        · exact absurd dead' dead
        · exact exact
        · omega
    rw [none, same.freeBalance rules charge.who, totalFree_same same]
    exact ⟨plain.same same, rfl, Iff.rfl⟩
  · have total := refilled.total reads
    have gives : givenBack (rules.freeBalance charge.who world.store) paid actual =
        paid.toNat - actual.toNat := if_neg had
    have issued : (Word.saturatingAdd (Item.totalIssuance.get world.store)
        (Word.saturatingSub paid actual) : Balance).toNat =
          rules.totalFree world.store + (paid.toNat - actual.toNat) := by
      rw [Balance.toNat_saturatingAdd, plain.issuance, refund]
      rw [plain.issuance, refund]
      omega
    have held : rules.freeBalance charge.who after.store = kept := by
      rw [freeBalance, refilled.booked.record]
      exact AccountInfo.withFree_free _ _
    rw [gives, held]
    refine ⟨plain.refilled reads refilled (fun _ => enough) ?_, ?_, ?_⟩
    · omega
    · omega
    · exact ⟨fun none => absurd none (ne_zero_of_enough positive enough), fun none => absurd none had⟩

theorem settle_gives
    (passed : ∀ amount world after, rules.feesTaken amount world = .ok () after →
      SameBooks world.store after.store)
    {tip fee : Balance} {post : PostInfo} {failed : Bool} (plain : rules.Plain world.store)
    (room : rules.totalFree world.store + fee.toNat < 18446744073709551616)
    (run : (rules.settle (some ⟨who, tip, if fee = 0 then none else some fee⟩) info post length
      failed Check.all).run world = .ok (.ok ()) after) :
    rules.Plain after.store ∧
      rules.totalFree after.store =
        rules.totalFree world.store +
          givenBack (rules.freeBalance who world.store) fee
            (rules.actualFee (UInt32.ofNat length) info post tip world.store) ∧
      (rules.freeBalance who after.store = 0 ↔ rules.freeBalance who world.store = 0) := by
  obtain ⟨placed, untouched, spared, ⟨impossible, _⟩ | ⟨charge, same, settles⟩⟩ := settle_stages run
  · cases impossible
  cases same
  have corrects := Action.look_bind settles
  obtain ⟨_, corrected, correction, deposits⟩ := Action.bind_eq_ok corrects
  have logged := deposit_same deposits
  have known : (if fee = 0 then none else some fee : Option Balance).getD 0 = fee := by
    by_cases nothing : fee = 0
    · rw [if_pos nothing, nothing]
      rfl
    · rw [if_neg nothing]
      rfl
  have actual := rules.actualFee_congr spared (UInt32.ofNat length) info post tip
  have placedRoom : rules.totalFree placed.store + fee.toNat < 18446744073709551616 := by
    rwa [totalFree_same untouched]
  obtain ⟨kept, total, alive⟩ := correctFee_gives reads quiet positive passed known
    (plain.same untouched) placedRoom correction
  rw [actual, untouched.freeBalance rules who, totalFree_same untouched] at total
  rw [untouched.freeBalance rules who] at alive
  rw [logged.freeBalance rules who, totalFree_same logged]
  exact ⟨kept.same logged, total, alive⟩

end StateTransition.Rules
