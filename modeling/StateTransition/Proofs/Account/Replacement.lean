import StateTransition.Proofs.Account.Books

set_option autoImplicit false

/-! Balances that are replaced. Where an account has a balance and goes on having enough, a change
of it writes its record and nothing follows from that: no account comes into being and none dies.
Such are the withdrawals that an account has to survive and what is created in an account that has a
balance. -/

namespace StateTransition

namespace Rules

variable {ρ : Type} {Account Number : Type} [Word Number]
variable {rules : Rules Account Number} {who : Account} {world after : World}
variable {amount : Balance}

/-- Every balance is at least the existential deposit, and its account has a provider. -/
structure Held (rules : Rules Account Number) (store : Store) : Prop where
  floor : ∀ who, rules.freeBalance who store ≠ 0 →
    rules.existentialDeposit ≤ rules.freeBalance who store
  provided : ∀ who, rules.freeBalance who store ≠ 0 →
    (rules.accountInfo who store).providers ≠ 0

theorem Held.isProvided {store : Store} (held : rules.Held store) (who : Account)
    (some : rules.freeBalance who store ≠ 0) : (rules.accountInfo who store).isProvided = true :=
  AccountInfo.isProvided_of_providers (held.provided who some)

/-! ### The record -/

theorem accountInfo_putFree (free : Option Balance) (store : Store) :
    rules.accountInfo who (rules.putFree who free store) =
      if (rules.accountInfo who store).isProvided = true then
        { rules.accountInfo who store with free := free.getD 0 }
      else .blank := by
  rw [putFree_eq]
  by_cases provided : (rules.accountInfo who store).isProvided = true
  · rw [if_pos provided, if_pos provided]
    exact (put_rebooked _ store).record
  · rw [if_neg provided, if_neg provided]
    exact (erase_rebooked store).record

theorem putFree_some {store : Store}
    (provided : (rules.accountInfo who store).isProvided = true) (free : Balance) :
    rules.putFree who (some free) store =
      (rules.accountSlot who).put { rules.accountInfo who store with free } store := by
  rw [putFree_eq, if_pos provided]
  rfl

variable [DecidableEq Account]

private theorem tryChangeFree_run (positive : 0 < rules.existentialDeposit)
    (had : rules.freeBalance who world.store ≠ 0)
    {change : Balance → Bool → Except DispatchError (ρ × Balance)} {answer : ρ} {wanted : Balance}
    (changes : change (rules.freeBalance who world.store) false = .ok (answer, wanted))
    (enough : rules.existentialDeposit ≤ wanted) :
    (rules.tryChangeFree who change).run world =
      .ok (.ok (answer, none)) ⟨rules.putFree who (some wanted) world.store, world.notes⟩ := by
  have isOld : (rules.freeBalance who world.store == 0) = false := beq_eq_false_iff_ne.mpr had
  have keeps : (wanted == 0) = false :=
    beq_eq_false_iff_ne.mpr (ne_zero_of_enough positive enough)
  have looks : (Attempt.look (rules.freeBalance who) : Attempt DispatchError Balance).run world =
      .ok (.ok (rules.freeBalance who world.store)) world := rfl
  have changed : (liftM (change (rules.freeBalance who world.store) false) :
      Attempt DispatchError (ρ × Balance)).run world = .ok (.ok (answer, wanted)) world := by
    rw [changes]
    rfl
  have settles : (rules.settleFree who false wanted).run world =
      .ok (.ok ()) ⟨rules.putFree who (some wanted) world.store, world.notes⟩ := by
    unfold settleFree
    rw [keeps]
    rfl
  unfold tryChangeFree
  rw [Attempt.bind_run_ok looks]
  dsimp only
  rw [isOld, Attempt.bind_run_ok changed]
  dsimp only
  rw [withoutDust_whole fun _ => enough]
  dsimp only
  rw [Attempt.bind_run_ok settles]
  rfl

private theorem tryChangeFree_run_error
    {change : Balance → Bool → Except DispatchError (ρ × Balance)} {cause : DispatchError}
    (refuses : change (rules.freeBalance who world.store)
      (rules.freeBalance who world.store == 0) = .error cause) :
    (rules.tryChangeFree who change).run world = .ok (.error cause) world := by
  have looks : (Attempt.look (rules.freeBalance who) : Attempt DispatchError Balance).run world =
      .ok (.ok (rules.freeBalance who world.store)) world := rfl
  have refused : (liftM (change (rules.freeBalance who world.store)
      (rules.freeBalance who world.store == 0)) :
      Attempt DispatchError (ρ × Balance)).run world = .ok (.error cause) world := by
    rw [refuses]
    rfl
  unfold tryChangeFree
  rw [Attempt.bind_run_ok looks]
  exact Attempt.bind_run_error refused

private theorem changeIssuance_run (change : Balance → Balance) (world : World) :
    changeIssuance change world =
      .ok () ⟨Item.totalIssuance.put (change (Item.totalIssuance.get world.store)) world.store,
        world.notes⟩ := rfl

private theorem deposit_run (event : Event Account) (world : World) :
    rules.deposit event world = .ok () ⟨rules.recordEvent [] event world.store, world.notes⟩ := rfl

/-! ### Withdrawals that are survived -/

def destroyed (amount : Balance) (store : Store) : Store :=
  Item.totalIssuance.put (Word.saturatingSub (Item.totalIssuance.get store) amount) store

/-- The store in which an amount has left a balance that is left enough. -/
def withdrawn (rules : Rules Account Number) (who : Account) (amount : Balance) (store : Store) :
    Store :=
  rules.recordEvent [] (.balances (.withdraw who amount)) (destroyed amount
    (rules.putFree who (some (Word.saturatingSub (rules.freeBalance who store) amount)) store))

theorem withdrawn_rebooked {store : Store}
    (provided : (rules.accountInfo who store).isProvided = true) :
    rules.Rebooked who
      { rules.accountInfo who store with
        free := Word.saturatingSub (rules.freeBalance who store) amount }
      (Word.saturatingSub (Item.totalIssuance.get store) amount) store
      (rules.withdrawn who amount store) := by
  have replaced := putFree_rebooked
    (some (Word.saturatingSub (rules.freeBalance who store) amount)) provided
  have issued := replaced.issued (changeIssuance_run (Word.saturatingSub · amount) ⟨_, []⟩)
  exact issued.aside (deposit_same (deposit_run _ ⟨_, []⟩))

theorem checkedSub?_iff {left right rest : Balance} :
    Word.checkedSub? left right = some rest ↔
      right.toNat ≤ left.toNat ∧ rest = Word.saturatingSub left right := by
  unfold Word.checkedSub?
  by_cases enough : Word.toNat right ≤ Word.toNat left
  · rw [if_pos enough]
    constructor
    · intro taken
      cases taken
      exact ⟨enough, rfl⟩
    · rintro ⟨_, rfl⟩
      rfl
  · rw [if_neg enough]
    constructor
    · intro impossible
      cases impossible
    · rintro ⟨possible, _⟩
      exact absurd possible enough

theorem withdraw_survived (positive : 0 < rules.existentialDeposit) (some : amount ≠ 0)
    {taken : Balance} :
    (rules.withdraw who amount .keepAlive).run world = .ok (.ok taken) after ↔
      amount.toNat ≤ (rules.freeBalance who world.store).toNat ∧
        rules.existentialDeposit ≤
          Word.saturatingSub (rules.freeBalance who world.store) amount ∧
        taken = amount ∧ after = ⟨rules.withdrawn who amount world.store, world.notes⟩ := by
  have looks : (Attempt.look (rules.freeBalance who) : Attempt DispatchError Balance).run world =
      .ok (.ok (rules.freeBalance who world.store)) world := rfl
  unfold withdraw
  rw [if_neg some, Attempt.bind_run_ok looks]
  cases lessens : Word.checkedSub? (rules.freeBalance who world.store) amount with
  | none =>
      unfold lessened
      rw [lessens]
      constructor
      · intro impossible
        cases impossible
      · rintro ⟨covered, _⟩
        rw [checkedSub?_iff.mpr ⟨covered, rfl⟩] at lessens
        cases lessens
  | some rest =>
      obtain ⟨covered, rfl⟩ := checkedSub?_iff.mp lessens
      have left : (liftM (rules.lessened (rules.freeBalance who world.store) amount) :
          Attempt DispatchError Balance).run world =
            .ok (.ok (Word.saturatingSub (rules.freeBalance who world.store) amount)) world := by
        unfold lessened
        rw [lessens]
        rfl
      have had : rules.freeBalance who world.store ≠ 0 := by
        intro none
        rw [none] at covered
        exact some (UInt64.toNat_inj.mp (Nat.le_zero.mp covered))
      rw [Attempt.bind_run_ok left]
      by_cases below : Word.saturatingSub (rules.freeBalance who world.store) amount <
          rules.existentialDeposit
      · constructor
        · intro run
          obtain ⟨_, _, changes, _⟩ := Attempt.bind_eq_ok run
          have changing := Attempt.look_bind changes
          obtain ⟨_, _, accepts, _⟩ := Attempt.bind_eq_ok changing
          have accepted := (Attempt.liftExcept_eq_ok accepts).1
          rw [if_pos ⟨rfl, below⟩] at accepted
          cases accepted
        · rintro ⟨_, enough, _⟩
          exact absurd below (UInt64.not_lt.mpr enough)
      · have enough := UInt64.not_lt.mp below
        rw [Attempt.bind_run_ok (tryChangeFree_run positive had
            (if_neg fun dies => below dies.2) enough),
          Attempt.bind_run_ok (Attempt.lift_run_ok (changeIssuance_run _ _)),
          Attempt.bind_run_ok (Attempt.lift_run_ok (deposit_run _ _))]
        constructor
        · intro run
          obtain ⟨rfl, rfl⟩ := Attempt.pure_eq_ok run
          exact ⟨covered, enough, rfl, rfl⟩
        · rintro ⟨_, _, rfl, rfl⟩
          rfl

/-! ### What is created in a balance -/

def issued (amount : Balance) (store : Store) : Store :=
  Item.totalIssuance.put (Word.saturatingAdd (Item.totalIssuance.get store) amount) store

/-- The store in which an amount has been added to a balance. -/
def credited (rules : Rules Account Number) (who : Account) (amount : Balance) (store : Store) :
    Store :=
  rules.recordEvent [] (.balances (.deposit who amount)) (issued amount
    (rules.putFree who (some (Word.saturatingAdd (rules.freeBalance who store) amount)) store))

theorem credited_rebooked {store : Store}
    (provided : (rules.accountInfo who store).isProvided = true) :
    rules.Rebooked who
      { rules.accountInfo who store with
        free := Word.saturatingAdd (rules.freeBalance who store) amount }
      (Word.saturatingAdd (Item.totalIssuance.get store) amount) store
      (rules.credited who amount store) := by
  have replaced := putFree_rebooked
    (some (Word.saturatingAdd (rules.freeBalance who store) amount)) provided
  have issued := replaced.issued (changeIssuance_run (Word.saturatingAdd · amount) ⟨_, []⟩)
  exact issued.aside (deposit_same (deposit_run _ ⟨_, []⟩))

/-- Whether there is a balance to which an amount can be added. -/
def CanTake (rules : Rules Account Number) (who : Account) (amount : Balance) (store : Store) :
    Prop :=
  rules.freeBalance who store ≠ 0 ∧
    (rules.freeBalance who store).toNat + amount.toNat < 18446744073709551616

instance (who : Account) (amount : Balance) (store : Store) :
    Decidable (rules.CanTake who amount store) :=
  inferInstanceAs (Decidable (_ ∧ _))

theorem createInExisting_taken (positive : 0 < rules.existentialDeposit)
    (held : rules.Held world.store) (some : amount ≠ 0)
    (takes : rules.CanTake who amount world.store) :
    (rules.createInExisting who amount).run world =
      .ok (.ok amount) ⟨rules.credited who amount world.store, world.notes⟩ := by
  obtain ⟨had, fits⟩ := takes
  have sum := Balance.toNat_saturatingAdd fits
  have enough : rules.existentialDeposit ≤
      Word.saturatingAdd (rules.freeBalance who world.store) amount := by
    have least := UInt64.le_iff_toNat_le.mp (held.floor who had)
    rw [UInt64.le_iff_toNat_le, sum]
    omega
  have adds : (if false = true then Except.error (rules.balanceError .deadAccount)
      else do return ((), ← increased (rules.freeBalance who world.store) amount)) =
      .ok ((), Word.saturatingAdd (rules.freeBalance who world.store) amount) :=
    increasing_of_sum sum
  unfold createInExisting
  rw [if_neg some, Attempt.bind_run_ok (tryChangeFree_run positive had adds enough)]
  rfl

theorem createInExisting_untaken (some : amount ≠ 0)
    (full : ¬rules.CanTake who amount world.store) :
    ∃ cause, (rules.createInExisting who amount).run world = .ok (.error cause) world := by
  unfold createInExisting
  rw [if_neg some]
  by_cases none : rules.freeBalance who world.store = 0
  · exact ⟨_, Attempt.bind_run_error
      (tryChangeFree_run_error (if_pos (beq_iff_eq.mpr none)))⟩
  have excess : Word.checkedAdd? (rules.freeBalance who world.store) amount = Option.none :=
    if_neg fun fits => full ⟨none, fits⟩
  refine ⟨.arithmetic .overflow, Attempt.bind_run_error (tryChangeFree_run_error ?_)⟩
  rw [if_neg fun zero => none (beq_iff_eq.mp zero), increased, excess]
  rfl

end Rules

end StateTransition
