import StateTransition.Proofs.Account.Nonce

set_option autoImplicit false

/-! What accounts look like where their balances are all that provides for them and nothing depends on
them: every record is that of a balance, and the issuance is the sum of all balances. A change of a
balance keeps it so if the issuance follows. -/

namespace StateTransition

/-- The record of an account that its balance alone provides for. -/
structure AccountInfo.Plain {Number : Type} (least : Balance) (info : AccountInfo Number) :
    Prop where
  providers : info.providers = 1
  consumers : info.consumers = 0
  sufficients : info.sufficients = 0
  floor : least ≤ info.free

namespace Rules

variable {Account Number : Type} [DecidableEq Account] [Word Number]
variable {rules : Rules Account Number} {who : Account}
variable {before after : Store} {world ended : World}

/-- Nothing provides for accounts or refers to them but their balances, whose sum is the issuance. -/
structure Plain (rules : Rules Account Number) (store : Store) : Prop where
  orderly : rules.Orderly store
  unreferenced : rules.Unreferenced store
  issuance : (Item.totalIssuance.get store).toNat = rules.totalFree store

namespace Plain

section

omit [DecidableEq Account]

theorem recorded (plain : rules.Plain before)
    (present : (rules.accountSlot who).exists? before = true) :
    ∃ info, (rules.accountSlot who).stored? before = some info ∧
      info.Plain rules.existentialDeposit := by
  have provided := plain.orderly.supported who present
  have counts := plain.orderly.sound.provided who
  have lone := plain.unreferenced who
  have some : (rules.accountInfo who before).providers ≠ 0 := by
    intro none
    simp [AccountInfo.isProvided, none, lone.sufficients] at provided
  have had : rules.freeBalance who before ≠ 0 := by
    intro none
    rw [AccountInfo.providing, if_pos none] at counts
    exact some (UInt32.toNat_inj.mp counts)
  rw [AccountInfo.providing, if_neg had] at counts
  have shape : (rules.accountInfo who before).Plain rules.existentialDeposit :=
    ⟨UInt32.toNat_inj.mp counts, lone.consumers, lone.sufficients,
      plain.orderly.sound.floor who had⟩
  cases stored : (rules.accountSlot who).stored? before with
  | none =>
      rw [freeBalance, accountInfo, Slot.get, stored] at had
      exact absurd rfl had
  | some info =>
      rw [accountInfo, Slot.get, stored] at shape
      exact ⟨info, rfl, shape⟩

theorem unrecorded (plain : rules.Plain before)
    (absent : (rules.accountSlot who).exists? before = false) :
    rules.freeBalance who before = 0 := by
  apply Decidable.byContradiction
  intro some
  have present := exists_of_isProvided (plain.orderly.sound.isProvided who some)
  rw [absent] at present
  cases present

theorem same (plain : rules.Plain before) (same : SameBooks before after) : rules.Plain after where
  orderly := plain.orderly.same same
  unreferenced := plain.unreferenced.same same
  issuance := by
    rw [same.issuance, totalFree_same same]
    exact plain.issuance

theorem total_lt (plain : rules.Plain before) : rules.totalFree before < 18446744073709551616 := by
  rw [← plain.issuance]
  exact UInt64.toNat_lt _

end

variable (reads : rules.account.Faithful fun _ => True)

include reads

theorem refilled {kept issuance : Balance} (plain : rules.Plain before)
    (refilled : rules.Refilled who kept issuance before after)
    (floor : kept ≠ 0 → rules.existentialDeposit ≤ kept)
    (follows : issuance.toNat + (rules.freeBalance who before).toNat =
      rules.totalFree before + kept.toNat) : rules.Plain after where
  orderly := plain.orderly.refilled reads refilled floor
  unreferenced := refilled.unreferenced reads plain.unreferenced
  issuance := by
    have total := refilled.total reads
    rw [refilled.booked.issuance]
    omega

end Plain

/-! ### Transfers -/

/-- What a transfer from a balance burns: the rest, if an amount goes to another account and the rest
is too little for a balance. -/
def residue (rules : Rules Account Number) (source target : Account) (amount : Balance)
    (free : Nat) : Nat :=
  if amount = 0 ∨ source = target ∨ rules.existentialDeposit.toNat ≤ free - amount.toNat then 0
  else free - amount.toNat

omit [DecidableEq Account] [Word Number] in
theorem withoutDust_lost (rules : Rules Account Number) (free : Balance) :
    ((rules.withoutDust free).2.getD 0).toNat =
      if rules.existentialDeposit.toNat ≤ free.toNat then 0 else free.toNat := by
  unfold withoutDust
  by_cases enough : rules.existentialDeposit ≤ free
  · rw [if_neg fun dust => UInt64.not_lt.mpr enough dust.1,
      if_pos (UInt64.le_iff_toNat_le.mp enough)]
    rfl
  · rw [if_neg fun least => enough (UInt64.le_iff_toNat_le.mpr least)]
    by_cases none : free = 0
    · rw [if_neg fun dust => dust.2 none, none]
      rfl
    · rw [if_pos ⟨UInt64.not_le.mp enough, none⟩]
      rfl

/-- A transfer that succeeds moves an amount and burns the rest of its source if that is too little;
then its source did not have to live. -/
theorem transfer_burns (reads : rules.account.Faithful fun _ => True) (quiet : rules.Quiet)
    (positive : 0 < rules.existentialDeposit) {source target : Account} {amount : Balance}
    {existence : Existence} (plain : rules.Plain world.store)
    (run : (rules.transfer source target amount existence).run world = .ok (.ok ()) ended) :
    let lost := rules.residue source target amount (rules.freeBalance source world.store).toNat
    rules.Plain ended.store ∧ rules.totalFree ended.store + lost = rules.totalFree world.store ∧
      (existence = .keepAlive → lost = 0) := by
  dsimp only
  rcases transfer_cases reads quiet positive plain.orderly.sound.isProvided run with
    ⟨untouched, idle⟩ |
    ⟨sourceFree, targetFree, halfway, different, some, takes, adds, enough, alive, taken, given⟩
  · have nothing : rules.residue source target amount
        (rules.freeBalance source world.store).toNat = 0 :=
      if_pos ((idle rfl).imp id Or.inl)
    rw [nothing, totalFree_same untouched]
    exact ⟨plain.same untouched, rfl, fun _ => rfl⟩
  obtain ⟨split, floor⟩ := withoutDust_split rules sourceFree
  have lost := withoutDust_lost rules sourceFree
  have apart : target ≠ source := fun same => different same.symm
  have there : rules.freeBalance target halfway = rules.freeBalance target world.store :=
    congrArg AccountInfo.free (taken.booked.elsewhere reads apart)
  have midway := plain.orderly.refilled reads taken floor
  have sourceTotal := taken.total reads
  have targetTotal := given.total reads
  have covered := free_le_total reads source world.store
  have rest : (rules.freeBalance source world.store).toNat - amount.toNat = sourceFree.toNat := by
    omega
  have burnt : rules.residue source target amount (rules.freeBalance source world.store).toNat =
      ((rules.withoutDust sourceFree).2.getD 0).toNat := by
    rw [residue, rest, lost]
    simp only [some, different, false_or]
  rw [there] at targetTotal
  rw [burnt]
  refine ⟨⟨midway.refilled reads given fun _ => enough,
    given.unreferenced reads (taken.unreferenced reads plain.unreferenced), ?_⟩, ?_, ?_⟩
  · have equal := plain.issuance
    rw [given.booked.issuance, taken.booked.issuance, Balance.toNat_saturatingSub]
    omega
  · omega
  · intro lives
    rw [lost, if_pos (UInt64.le_iff_toNat_le.mp (alive lives))]

end Rules

end StateTransition
