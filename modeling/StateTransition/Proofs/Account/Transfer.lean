import StateTransition.Proofs.Account.Refusal
import StateTransition.Proofs.Account.Shape
import StateTransition.Proofs.Account.Total

set_option autoImplicit false

/-! Transfers. What is asked of one is asked before anything is written, and it is all that is asked:
a transfer succeeds exactly if it is granted then. What it makes of balances, of the issuance and of
all other accounts follows from the two records that it writes. -/

namespace StateTransition.Rules

variable {Account Number : Type} [DecidableEq Account] [Word Number]
variable {rules : Rules Account Number} {source target : Account} {amount : Balance}
variable {existence : Existence} {before after : Store} {world ended : World}

structure Sent (rules : Rules Account Number) (source target : Account) (amount : Balance)
    (existence : Existence) (before after : Store) : Prop where
  gained : (rules.freeBalance target after).toNat =
    (rules.freeBalance target before).toNat + amount.toNat
  left : let rest := (rules.freeBalance source before).toNat - amount.toNat
    (rules.freeBalance source after).toNat =
      if rules.existentialDeposit.toNat ≤ rest then rest else 0
  issuance : (Item.totalIssuance.get after).toNat = (Item.totalIssuance.get before).toNat -
    rules.residue source target amount (rules.freeBalance source before).toNat
  alive : existence = .keepAlive → (rules.accountSlot source).exists? after = true ∧
    rules.nonce source after = rules.nonce source before
  others : ∀ other, other ≠ source → other ≠ target →
    (rules.accountSlot other).stored? after = (rules.accountSlot other).stored? before

omit [DecidableEq Account] [Word Number] in
private theorem withoutDust_kept (rules : Rules Account Number) (free : Balance) :
    (rules.withoutDust free).1.toNat =
      if rules.existentialDeposit.toNat ≤ free.toNat then free.toNat else 0 := by
  have split := (withoutDust_split rules free).1
  have lost := withoutDust_lost rules free
  by_cases enough : rules.existentialDeposit.toNat ≤ free.toNat
  · rw [if_pos enough] at lost ⊢
    omega
  · rw [if_neg enough] at lost ⊢
    omega

omit [DecidableEq Account] in
theorem Refilled.keeps {who : Account} {kept issuance : Balance}
    (refilled : rules.Refilled who kept issuance before after) (filled : kept ≠ 0)
    (had : rules.freeBalance who before ≠ 0) :
    rules.accountInfo who after = { rules.accountInfo who before with free := kept } := by
  have some : (rules.accountInfo who before).free ≠ 0 := had
  rw [refilled.booked.record, AccountInfo.withFree, if_neg some, if_neg filled]

variable (reads : rules.account.Faithful fun _ => True)

include reads

omit [DecidableEq Account] in
private theorem Rebooked.stored_elsewhere {who other : Account} {info : AccountInfo Number}
    {issuance : Balance} (booked : rules.Rebooked who info issuance before after)
    (different : other ≠ who) :
    (rules.accountSlot other).stored? after = (rules.accountSlot other).stored? before := by
  apply Slot.stored?_congr
  apply booked.others _ (Item.row_begins _ other)
  intro same
  exact different (row_injective reads same)

private theorem sent_of_refilled (positive : 0 < rules.existentialDeposit)
    (held : rules.Held before) {sourceFree targetFree : Balance} {halfway : Store}
    (different : source ≠ target) (some : amount ≠ 0)
    (takes : sourceFree.toNat + amount.toNat = (rules.freeBalance source before).toNat)
    (adds : targetFree.toNat = (rules.freeBalance target before).toNat + amount.toNat)
    (lives : existence = .keepAlive → rules.existentialDeposit ≤ sourceFree)
    (taken : rules.Refilled source (rules.withoutDust sourceFree).1
      (Word.saturatingSub (Item.totalIssuance.get before)
        ((rules.withoutDust sourceFree).2.getD 0)) before halfway)
    (given : rules.Refilled target targetFree (Item.totalIssuance.get halfway) halfway after) :
    rules.Sent source target amount existence before after := by
  have later : rules.accountInfo source after = rules.accountInfo source halfway :=
    given.booked.elsewhere reads different
  have rest : (rules.freeBalance source before).toNat - amount.toNat = sourceFree.toNat := by
    omega
  constructor
  · rw [freeBalance, given.booked.record, AccountInfo.withFree_free]
    exact adds
  · dsimp only
    rw [rest, freeBalance, later, taken.booked.record, AccountInfo.withFree_free]
    exact withoutDust_kept rules sourceFree
  · have lost : rules.residue source target amount (rules.freeBalance source before).toNat =
        ((rules.withoutDust sourceFree).2.getD 0).toNat := by
      rw [residue, rest, withoutDust_lost]
      simp only [some, different, false_or]
    rw [lost, given.booked.issuance, taken.booked.issuance]
    exact Balance.toNat_saturatingSub _ _
  · intro alive
    have enough := lives alive
    have filled := ne_zero_of_enough positive enough
    have had : rules.freeBalance source before ≠ 0 := by
      intro none
      rw [none] at takes
      apply some
      apply UInt64.toNat_inj.mp
      exact (Nat.eq_zero_of_add_eq_zero takes).2
    have kept : rules.accountInfo source after =
        { rules.accountInfo source before with free := sourceFree } := by
      rw [withoutDust_whole fun _ => enough] at taken
      exact later.trans (taken.keeps filled had)
    refine ⟨exists_of_isProvided ?_, ?_⟩
    · rw [kept]
      exact held.isProvided source had
    · rw [nonce, kept]
      rfl
  · intro other notSource notTarget
    exact (given.booked.stored_elsewhere reads notTarget).trans
      (taken.booked.stored_elsewhere reads notSource)

omit reads

/-- A transfer always ends; it succeeds exactly if what is asked of it before is the case, and then
the amount has been sent. -/
theorem transfer_succeeds_iff_sendable (rules : Rules Account Number) (source target : Account)
    (amount : Balance) (existence : Existence) (world : World)
    (reads : rules.account.Faithful fun _ => True) (quiet : rules.Quiet)
    (lives : rules.SafeLives) (positive : 0 < rules.existentialDeposit)
    (held : rules.Held world.store) :
    (amount = 0 ∨ source = target →
        (rules.transfer source target amount existence).run world = .ok (.ok ()) world) ∧
      (amount ≠ 0 → source ≠ target → ∃ outcome ended,
        (rules.transfer source target amount existence).run world = .ok outcome ended ∧
          (outcome = .ok () ↔ rules.Sendable source target amount existence world.store) ∧
          (outcome = .ok () →
            rules.Sent source target amount existence world.store ended.store)) := by
  constructor
  · intro idle
    unfold transfer
    rw [if_pos idle]
    rfl
  intro some different
  have total : Attempt.Total (rules.transfer source target amount existence) :=
    transfer_total lives amount existence
  obtain ⟨outcome, ended, run⟩ := total world
  refine ⟨outcome, ended, run, ⟨?_, ?_⟩, ?_⟩
  · rintro rfl
    rcases transfer_decided some different run with ⟨_, _, _, impossible⟩ | ⟨asked, _⟩
    · cases impossible
    · exact asked
  · intro asked
    cases outcome with
    | ok _ => rfl
    | error cause =>
        obtain ⟨_, refused⟩ := transfer_refused positive run
        exact absurd asked refused
  · rintro rfl
    rcases transfer_cases reads quiet positive held.isProvided run with
      ⟨_, idle⟩ | ⟨_, _, _, _, _, takes, adds, _, alive, taken, given⟩
    · exact absurd (idle rfl) (not_or.mpr ⟨some, different⟩)
    · exact sent_of_refilled reads positive held different some takes adds alive taken given

/-- Of a balance twice the least a part is sent that leaves too little: it goes to an account that
comes into being with it, and the rest is burnt. -/
theorem transfer_succeeds_iff_sendable_of_reaped :
    ∃ world ended : World,
      (Testnet.rules.transfer (.filled 32 1) (.filled 32 2) 700 .allowDeath).run world =
        .ok (.ok ()) ended ∧
      Testnet.rules.Sendable (.filled 32 1) (.filled 32 2) 700 .allowDeath world.store ∧
      Testnet.rules.Sent (.filled 32 1) (.filled 32 2) 700 .allowDeath world.store
        ended.store := by
  let endow := Testnet.rules.endow [(.filled 32 1, 1000)]
  let world := Action.ending endow ⟨.empty, []⟩
  let send := (Testnet.rules.transfer (.filled 32 1) (.filled 32 2) 700 .allowDeath).run
  have endows : endow ⟨.empty, []⟩ = .ok (.ok ()) world :=
    Action.run_of_answer_ok (by decide +kernel)
  have sends : send world = .ok (.ok ()) (Action.ending send world) :=
    Action.run_of_answer_ok (by decide +kernel)
  have reads : Testnet.rules.account.Faithful fun _ => True := Codec.octets_faithful 32
  obtain ⟨sound, _⟩ := endow_sound reads Testnet.quiet (by decide) (by decide +kernel) endows
  obtain ⟨_, succeeds⟩ := transfer_succeeds_iff_sendable Testnet.rules (.filled 32 1) (.filled 32 2)
    700 .allowDeath world reads Testnet.quiet Testnet.safeLives (by decide) sound.held
  obtain ⟨outcome, ended, run, asked, sent⟩ := succeeds (by decide) (by decide)
  rw [show (Testnet.rules.transfer _ _ _ _).run world = _ from sends] at run
  cases run
  exact ⟨world, _, sends, asked.mp rfl, sent rfl⟩

end StateTransition.Rules
