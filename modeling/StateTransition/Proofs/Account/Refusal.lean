import StateTransition.Call.Balances
import StateTransition.Proofs.Account.Ledger
import StateTransition.Proofs.Account.Nonce
import StateTransition.Proofs.Account.Replacement

set_option autoImplicit false

/-! Changes of balances that are refused. They are not run in a layer of their own, so what a
refused one had written would stay. Each of them decides before it writes: behind the first write
there are only steps that cannot be refused any more. -/

namespace StateTransition

namespace Rules

variable {ρ : Type} {Account Number Index : Type} [DecidableEq Account] [Word Number]
variable {rules : Rules Account Number} {who source target : Account} {world after : World}
variable {amount : Balance} {existence : Existence} {cause : DispatchError}

/-! ### One balance -/

private theorem decrementProviders_accepted
    (loses : (rules.accountInfo who world.store).canLoseProvider = true) :
    rules.decrementProviders who ⟨rules.putFree who none world.store, world.notes⟩ ≠
      .ok (.error cause) after := by
  intro run
  obtain ⟨stays, _⟩ := decrementProviders_refused run
  have leaves : (rules.accountInfo who (rules.putFree who none world.store)).canLoseProvider =
      true := by
    rw [accountInfo_putFree]
    by_cases provided : (rules.accountInfo who world.store).isProvided = true
    · rw [if_pos provided]
      exact loses
    · rw [if_neg provided]
      rfl
  obtain ⟨_, left⟩ := AccountInfo.withoutProvider_of_canLose leaves
  rw [left] at stays
  cases stays

private theorem settleFree_refused {isNew : Bool} {kept : Balance}
    (run : (rules.settleFree who isNew kept).run world = .ok (.error cause) after) :
    after = world ∧ kept = 0 ∧ (rules.accountInfo who world.store).canLoseProvider = false := by
  unfold settleFree at run
  cases isNew with
  | true =>
      cases none : kept == 0 with
      | true =>
          rw [none] at run
          cases run
      | false =>
          rw [none] at run
          obtain ⟨_, _, _, later⟩ := Attempt.lift_bind run
          obtain ⟨_, _, _, logs⟩ := Attempt.lift_bind later
          obtain ⟨_, impossible, _⟩ := Attempt.lift_cases logs
          cases impossible
  | false =>
      cases none : kept == 0 with
      | false =>
          rw [none] at run
          obtain ⟨_, impossible, _⟩ := Attempt.lift_cases run
          cases impossible
      | true =>
          rw [none] at run
          have looked := Attempt.look_bind run
          rcases Attempt.bind_cases looked with ⟨_, _, refused⟩ | ⟨_, allowed, demands, later⟩
          · obtain ⟨same, ⟨_, impossible⟩ | ⟨stays, _⟩⟩ := Attempt.demand_cases refused
            · cases impossible
            · exact ⟨same, beq_iff_eq.mp none, stays⟩
          obtain ⟨rfl, ⟨loses, _⟩ | ⟨_, impossible⟩⟩ := Attempt.demand_cases demands
          · obtain ⟨_, written, writes, leaves⟩ := Attempt.lift_bind later
            rw [Action.change_run] at writes
            cases writes
            rcases Attempt.bind_cases leaves with ⟨_, _, stays⟩ | ⟨_, _, _, ends⟩
            · exact absurd stays (decrementProviders_accepted loses)
            · cases ends
          · cases impossible

private theorem tryChangeFree_refused {change : Balance → Bool → Except DispatchError (ρ × Balance)}
    (run : (rules.tryChangeFree who change).run world = .ok (.error cause) after) :
    after = world ∧
      (change (rules.freeBalance who world.store) (rules.freeBalance who world.store == 0) =
          .error cause ∨
        ∃ answer wanted,
          change (rules.freeBalance who world.store) (rules.freeBalance who world.store == 0) =
            .ok (answer, wanted) ∧ (rules.withoutDust wanted).1 = 0 ∧
          (rules.accountInfo who world.store).canLoseProvider = false) := by
  have looked := Attempt.look_bind run
  rcases Attempt.bind_cases looked with ⟨_, same, refused⟩ | ⟨⟨answer, wanted⟩, _, changes, later⟩
  · obtain ⟨refuses, rfl⟩ := Attempt.liftExcept_cases refused
    cases same
    exact ⟨rfl, Or.inl refuses.symm⟩
  obtain ⟨changed, rfl⟩ := Attempt.liftExcept_eq_ok changes
  dsimp only at later
  rcases Attempt.bind_cases later with ⟨_, _, refused⟩ | ⟨_, settled, _, ends⟩
  · obtain ⟨same, none, stays⟩ := settleFree_refused refused
    exact ⟨same, Or.inr ⟨answer, wanted, changed, none, stays⟩⟩
  · cases dust : (rules.withoutDust wanted).2 with
    | none =>
        rw [dust] at ends
        cases ends
    | some lost =>
        rw [dust] at ends
        obtain ⟨_, _, _, later⟩ := Attempt.lift_bind ends
        obtain ⟨_, _, _, finishes⟩ := Attempt.lift_bind later
        cases finishes

private theorem setFree_accepted {wanted : Balance} (positive : 0 < rules.existentialDeposit)
    (lives : rules.existentialDeposit ≤ wanted ∨
      (rules.accountInfo who world.store).canLoseProvider = true) :
    (rules.setFree who wanted).run world ≠ .ok (.error cause) after := by
  intro run
  rcases Attempt.bind_cases run with ⟨_, _, refused⟩ | ⟨_, _, _, ends⟩
  · obtain ⟨_, impossible | ⟨_, _, same, none, stays⟩⟩ := tryChangeFree_refused refused
    · cases impossible
    cases same
    rcases lives with enough | leaves
    · rw [withoutDust_whole fun _ => enough] at none
      exact ne_zero_of_enough positive enough none
    · rw [stays] at leaves
      cases leaves
  · cases ends

/-! ### Moving, creating and destroying -/

/-- What has been found to be sendable is sent. -/
theorem moving_accepted (positive : 0 < rules.existentialDeposit)
    {sourceFree targetFree : Balance}
    (lives : rules.existentialDeposit ≤ sourceFree ∨
      (rules.accountInfo source world.store).canLoseProvider = true)
    (enough : rules.existentialDeposit ≤ targetFree) :
    (rules.moving source target amount sourceFree targetFree).run world ≠
      .ok (.error cause) after := by
  intro run
  rcases Attempt.bind_cases run with ⟨_, _, refused⟩ | ⟨_, taken, _, later⟩
  · exact setFree_accepted positive lives refused
  rcases Attempt.bind_cases later with ⟨_, _, refused⟩ | ⟨_, _, _, logs⟩
  · exact setFree_accepted positive (Or.inl enough) refused
  obtain ⟨_, impossible, _⟩ := Attempt.lift_cases logs
  cases impossible

theorem transfer_refused (positive : 0 < rules.existentialDeposit)
    (run : (rules.transfer source target amount existence).run world =
      .ok (.error cause) after) :
    after = world ∧ ¬rules.Sendable source target amount existence world.store := by
  by_cases idle : amount = 0 ∨ source = target
  · unfold transfer at run
    rw [if_pos idle] at run
    cases run
  obtain ⟨some, different⟩ := not_or.mp idle
  rcases transfer_decided some different run with
    ⟨refused, same, _⟩ | ⟨asked, sourceFree, targetFree, takes, adds, moves⟩
  · exact ⟨same, refused⟩
  exfalso
  refine moving_accepted positive ?_ ?_ moves
  · rcases asked.lives with above | ⟨_, leaves⟩
    · left
      rw [UInt64.le_iff_toNat_le]
      omega
    · exact Or.inr leaves
  · rw [UInt64.le_iff_toNat_le, adds]
    exact asked.enough

theorem withdraw_refused
    (run : (rules.withdraw who amount existence).run world = .ok (.error cause) after) :
    after = world := by
  unfold withdraw at run
  by_cases nothing : amount = 0
  · rw [if_pos nothing] at run
    cases run
  rw [if_neg nothing] at run
  have looked := Attempt.look_bind run
  rcases Attempt.bind_cases looked with ⟨_, _, refused⟩ | ⟨_, _, takes, changing⟩
  · exact (Attempt.liftExcept_cases refused).2
  obtain ⟨_, unmoved⟩ := Attempt.liftExcept_eq_ok takes
  rw [unmoved] at changing
  rcases Attempt.bind_cases changing with ⟨_, _, refused⟩ | ⟨_, _, _, later⟩
  · exact (tryChangeFree_refused refused).1
  obtain ⟨_, _, _, logs⟩ := Attempt.lift_bind later
  obtain ⟨_, _, _, finishes⟩ := Attempt.lift_bind logs
  cases finishes

theorem createInExisting_refused
    (run : (rules.createInExisting who amount).run world = .ok (.error cause) after) :
    after = world := by
  unfold createInExisting at run
  by_cases nothing : amount = 0
  · rw [if_pos nothing] at run
    cases run
  rw [if_neg nothing] at run
  rcases Attempt.bind_cases run with ⟨_, _, refused⟩ | ⟨_, _, _, later⟩
  · exact (tryChangeFree_refused refused).1
  obtain ⟨_, _, _, finishes⟩ := Attempt.lift_bind later
  cases finishes

theorem create_refused (run : rules.create who amount world = .ok 0 after) : after = world := by
  unfold create at run
  by_cases nothing : amount = 0
  · rw [if_pos nothing] at run
    cases run
    rfl
  rw [if_neg nothing] at run
  obtain ⟨outcome, changed, changes, later⟩ := Action.bind_eq_ok run
  cases outcome with
  | error refusal =>
      cases later
      exact (tryChangeFree_refused changes).1
  | ok _ =>
      obtain ⟨_, _, _, finishes⟩ := Action.bind_eq_ok later
      cases finishes
      exact absurd rfl nothing

theorem forceBalance_refused {free : Balance}
    (run : (rules.forceBalance who free).run world = .ok (.error cause) after) :
    after = world := by
  unfold forceBalance at run
  dsimp only at run
  rcases Attempt.bind_cases run with ⟨_, _, refused⟩ | ⟨⟨before, _⟩, _, _, later⟩
  · exact (tryChangeFree_refused refused).1
  generalize (if free < rules.existentialDeposit then 0 else free) = wanted at later
  -- The issuance follows up, down or not at all, and then it is logged.
  have logged : ∀ {middle : World}, (liftM (rules.deposit (.balances (.balanceSet who wanted))) :
      Attempt DispatchError Unit).run middle ≠ .ok (.error cause) after := by
    intro middle logs
    obtain ⟨_, impossible, _⟩ := Attempt.lift_cases logs
    cases impossible
  dsimp only at later
  exfalso
  by_cases more : before < wanted
  · rw [if_pos more] at later
    obtain ⟨_, _, _, logs⟩ := Attempt.lift_bind later
    exact logged logs
  · rw [if_neg more] at later
    by_cases less : wanted < before
    · rw [if_pos less] at later
      obtain ⟨_, _, _, logs⟩ := Attempt.lift_bind later
      exact logged logs
    · rw [if_neg less] at later
      exact logged later

theorem forceSetBalance_refused {origin : Origin Account} {address : Address Account Index}
    {free : Balance}
    (run : (rules.runBalanceCall origin (.forceSetBalance address free)).run world =
      .ok (.error cause) after) : after = world := by
  rcases Attempt.bind_cases run with ⟨_, _, refused⟩ | ⟨_, _, permits, looking⟩
  · exact (Attempt.liftExcept_cases refused).2
  obtain ⟨_, unmoved⟩ := Attempt.liftExcept_eq_ok permits
  rw [unmoved] at looking
  rcases Attempt.bind_cases looking with ⟨_, _, refused⟩ | ⟨who, _, finds, setting⟩
  · exact (Attempt.liftExcept_cases refused).2
  obtain ⟨_, unmoved⟩ := Attempt.liftExcept_eq_ok finds
  rw [unmoved] at setting
  rcases Attempt.bind_cases setting with ⟨_, _, refused⟩ | ⟨_, _, _, finishes⟩
  · exact forceBalance_refused refused
  · cases finishes

/-! ### Accounts that survive -/

/-- What becomes of an account that has to survive a withdrawal. -/
theorem withdraw_survivor (positive : 0 < rules.existentialDeposit) {taken : Balance}
    (some : amount ≠ 0) (held : rules.Held world.store)
    (run : (rules.withdraw who amount .keepAlive).run world = .ok (.ok taken) after) :
    (rules.accountInfo who after.store).isProvided = true ∧
      rules.existentialDeposit ≤ rules.freeBalance who after.store := by
  obtain ⟨covered, enough, _, rfl⟩ := (withdraw_survived positive some).mp run
  have had : rules.freeBalance who world.store ≠ 0 := by
    intro none
    rw [none] at covered
    exact some (UInt64.toNat_inj.mp (Nat.le_zero.mp covered))
  have provided := held.isProvided who had
  rw [freeBalance, (withdrawn_rebooked provided).record]
  exact ⟨provided, enough⟩

omit [DecidableEq Account] in
theorem Sound.held {elsewhere : Account → Nat} {store : Store}
    (sound : rules.Sound elsewhere store) : rules.Held store where
  floor := sound.floor
  provided who some none := by
    have counts := sound.provided who
    rw [none, AccountInfo.providing, if_neg some] at counts
    change 0 = _ at counts
    omega

/-- An operation on balances that is refused has written nothing. Who has to survive a withdrawal
goes on existing, with enough, unless there was nothing and nothing was withdrawn: a withdrawal of nothing
succeeds at once and changes nothing. -/
theorem refusals_write_nothing (rules : Rules Account Number) (Index : Type)
    (world after : World) (positive : 0 < rules.existentialDeposit)
    (held : rules.Held world.store) :
    (∀ source target amount existence cause,
        (rules.transfer source target amount existence).run world = .ok (.error cause) after →
          after = world) ∧
      (∀ who amount existence cause,
        (rules.withdraw who amount existence).run world = .ok (.error cause) after →
          after = world) ∧
      (∀ who amount cause,
        (rules.createInExisting who amount).run world = .ok (.error cause) after →
          after = world) ∧
      (∀ (origin : Origin Account) (address : Address Account Index) free cause,
        (rules.runBalanceCall origin (.forceSetBalance address free)).run world =
            .ok (.error cause) after → after = world) ∧
      (∀ who amount, rules.create who amount world = .ok 0 after → after = world) ∧
      (∀ who amount taken,
        (rules.withdraw who amount .keepAlive).run world = .ok (.ok taken) after →
        amount ≠ 0 ∨ rules.freeBalance who world.store ≠ 0 →
          (rules.accountSlot who).exists? after.store = true ∧
            rules.existentialDeposit ≤ rules.freeBalance who after.store) ∧
      ∀ who existence, (rules.withdraw who 0 existence).run world = .ok (.ok 0) world := by
  refine ⟨fun _ _ _ _ _ run => (transfer_refused positive run).1,
    fun _ _ _ _ run => withdraw_refused run, fun _ _ _ run => createInExisting_refused run,
    fun _ _ _ _ run => forceSetBalance_refused run, fun _ _ run => create_refused run, ?_,
    fun _ _ => rfl⟩
  intro who amount taken run some
  by_cases nothing : amount = 0
  · have had := some.resolve_left fun positive => positive nothing
    unfold withdraw at run
    rw [if_pos nothing] at run
    obtain ⟨_, rfl⟩ := Attempt.pure_eq_ok run
    exact ⟨exists_of_isProvided (held.isProvided who had), held.floor who had⟩
  · obtain ⟨provided, enough⟩ := withdraw_survivor positive nothing held run
    exact ⟨exists_of_isProvided provided, enough⟩

/-- Of a balance twice the least, its half cannot be taken so that the account survives if a unit
more is asked for. -/
theorem refusals_write_nothing_of_withdrawal :
    ∃ world kept ended : World, ∃ cause,
      (Testnet.rules.withdraw (.filled 32 1) 501 .keepAlive).run world =
          .ok (.error cause) ended ∧ ended = world ∧
      (Testnet.rules.withdraw (.filled 32 1) 500 .keepAlive).run world = .ok (.ok 500) kept ∧
      (Testnet.rules.accountSlot (.filled 32 1)).exists? kept.store = true := by
  let endow := Testnet.rules.endow [(.filled 32 1, 1000)]
  let world := Action.ending endow ⟨.empty, []⟩
  let refused := (Testnet.rules.withdraw (.filled 32 1) 501 .keepAlive).run
  let granted := (Testnet.rules.withdraw (.filled 32 1) 500 .keepAlive).run
  have endows : endow ⟨.empty, []⟩ = .ok (.ok ()) world :=
    Action.run_of_answer_ok (by decide +kernel)
  have refuses : refused world =
      .ok (.error (Testnet.rules.balanceError .expendability)) (Action.ending refused world) :=
    Action.run_of_answer_ok (by decide +kernel)
  have grants : granted world = .ok (.ok 500) (Action.ending granted world) :=
    Action.run_of_answer_ok (by decide +kernel)
  have reads : Testnet.rules.account.Faithful fun _ => True := Codec.octets_faithful 32
  obtain ⟨sound, _⟩ := endow_sound reads Testnet.quiet (by decide) (by decide +kernel) endows
  obtain ⟨_, unwritten, _⟩ := refusals_write_nothing Testnet.rules Unit world
    (Action.ending refused world) (by decide) sound.held
  obtain ⟨_, _, _, _, _, survives, _⟩ := refusals_write_nothing Testnet.rules Unit world
    (Action.ending granted world) (by decide) sound.held
  exact ⟨world, _, _, _, refuses, unwritten _ _ _ _ refuses, grants,
    (survives _ _ _ grants (Or.inl (by decide))).1⟩

/-- A withdrawal of nothing succeeds for an account that is not there, and goes on not to be. -/
theorem withdraw_nothing_from_nobody :
    0 < Testnet.rules.existentialDeposit ∧ Testnet.rules.Held .empty ∧
      (∀ who, 0 < (Testnet.rules.accountInfo who .empty).consumers →
        0 < (Testnet.rules.accountInfo who .empty).providers) ∧
      (Testnet.rules.withdraw (.filled 32 1) 0 .keepAlive).run ⟨.empty, []⟩ =
        .ok (.ok 0) ⟨.empty, []⟩ ∧
      (Testnet.rules.accountSlot (.filled 32 1)).exists? .empty = false ∧
      Testnet.rules.freeBalance (.filled 32 1) .empty < Testnet.rules.existentialDeposit := by
  have blank : ∀ who, Testnet.rules.accountInfo who .empty = .blank := fun _ => rfl
  refine ⟨by decide, ⟨?_, ?_⟩, ?_, rfl, rfl, by decide +kernel⟩
  · intro who some
    exact absurd (congrArg AccountInfo.free (blank who)) some
  · intro who some
    exact absurd (congrArg AccountInfo.free (blank who)) some
  · intro who depends
    rw [blank who] at depends
    exact absurd depends (by decide)

end Rules

end StateTransition
