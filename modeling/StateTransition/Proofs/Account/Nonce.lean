import StateTransition.Proofs.Account.Issuance

set_option autoImplicit false

/-! Nonces are kept in the records of accounts. A balance is settled in the same record, so every
change of a balance could lose a nonce; it does so only where it is the end of the record. -/

namespace StateTransition.Rules

variable {Account Number : Type} [Word Number]
variable {rules : Rules Account Number} {who : Account}
variable {before after : Store} {world ended : World}

/-- The number of transactions that an account has sent, as it is stored. -/
def nonce (rules : Rules Account Number) (who : Account) (store : Store) : Number :=
  (rules.accountInfo who store).nonce

theorem nonce_same (same : SameBooks before after) (who : Account) :
    rules.nonce who after = rules.nonce who before :=
  congrArg AccountInfo.nonce (same.accountInfo rules who)

/-- Nothing provides for an account but its balance, and there is no record of an account that
nothing provides for. -/
structure Orderly (rules : Rules Account Number) (store : Store) : Prop where
  sound : rules.Sound (fun _ => 0) store
  supported : ∀ who, rules.Supported who store

namespace Orderly

theorem same (orderly : rules.Orderly before) (same : SameBooks before after) :
    rules.Orderly after where
  sound := orderly.sound.same same
  supported who := (orderly.supported who).same same

theorem absent (orderly : rules.Orderly before) (blank : rules.accountInfo who before = .blank) :
    (rules.accountSlot who).exists? before = false := by
  have supported := orderly.supported who
  rw [Supported, blank] at supported
  apply Bool.eq_false_iff.mpr
  intro present
  cases supported present

end Orderly

theorem exists_of_isProvided (provided : (rules.accountInfo who before).isProvided = true) :
    (rules.accountSlot who).exists? before = true := by
  cases present : (rules.accountSlot who).exists? before with
  | true => rfl
  | false =>
      rw [accountInfo, Slot.get, Slot.stored?_of_absent _ present] at provided
      cases provided

/-! ### Changes of one balance -/

theorem Refilled.nonce {kept issuance : Balance}
    (refilled : rules.Refilled who kept issuance before after) :
    rules.nonce who after = rules.nonce who before ∨
      rules.accountInfo who after = .blank ∧ kept = 0 := by
  rw [Rules.nonce, refilled.booked.record]
  exact AccountInfo.withFree_nonce _ kept

variable (reads : rules.account.Faithful fun _ => True)

include reads

theorem Rebooked.nonce_elsewhere {info : AccountInfo Number} {issuance : Balance}
    (booked : rules.Rebooked who info issuance before after) {other : Account}
    (different : other ≠ who) : rules.nonce other after = rules.nonce other before :=
  congrArg AccountInfo.nonce (booked.elsewhere reads different)

variable [DecidableEq Account]

theorem Orderly.refilled {kept issuance : Balance} (orderly : rules.Orderly before)
    (refilled : rules.Refilled who kept issuance before after)
    (floor : kept ≠ 0 → rules.existentialDeposit ≤ kept) : rules.Orderly after where
  sound := by
    apply orderly.sound.refilled reads refilled floor
    have one := AccountInfo.providing_le_one (rules.freeBalance who after)
    omega
  supported other := refilled.supports reads (orderly.supported other)

theorem transfer_nonces (quiet : rules.Quiet) (positive : 0 < rules.existentialDeposit)
    {source target : Account} {amount : Balance} {existence : Existence}
    {outcome : Except DispatchError Unit} (orderly : rules.Orderly world.store)
    (run : (rules.transfer source target amount existence).run world = .ok outcome ended) :
    rules.Orderly ended.store ∧
      ∀ who, rules.nonce who ended.store = rules.nonce who world.store ∨
        who = source ∧ existence = .allowDeath ∧ rules.accountInfo who ended.store = .blank := by
  rcases transfer_cases reads quiet positive orderly.sound.isProvided run with
    ⟨untouched, _⟩ |
    ⟨sourceFree, targetFree, halfway, different, _, _, _, enough, alive, taken, given⟩
  · exact ⟨orderly.same untouched, fun who => Or.inl (nonce_same untouched who)⟩
  have floor := (withoutDust_split rules sourceFree).2
  have midway := orderly.refilled reads taken floor
  refine ⟨midway.refilled reads given fun _ => enough, ?_⟩
  intro who
  by_cases isSource : who = source
  · subst isSource
    have later : rules.accountInfo who ended.store = rules.accountInfo who halfway :=
      given.booked.elsewhere reads different
    rcases taken.nonce with same | ⟨blank, none⟩
    · exact Or.inl ((congrArg AccountInfo.nonce later).trans same)
    · refine Or.inr ⟨rfl, ?_, later.trans blank⟩
      cases existence with
      | allowDeath => rfl
      | keepAlive =>
          have above := alive rfl
          rw [withoutDust_whole fun _ => above] at none
          exact absurd none (ne_zero_of_enough positive above)
  · left
    have earlier : rules.nonce who halfway = rules.nonce who world.store :=
      taken.booked.nonce_elsewhere reads isSource
    by_cases isTarget : who = target
    · subst isTarget
      rcases given.nonce with same | ⟨_, none⟩
      · exact same.trans earlier
      · exact absurd none (ne_zero_of_enough positive enough)
    · exact (given.booked.nonce_elsewhere reads isTarget).trans earlier

end StateTransition.Rules
