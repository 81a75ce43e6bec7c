import StateTransition.Proofs.Event.Deposit
import StateTransition.Proofs.Privilege

set_option autoImplicit false

/-! How many events come from operations on accounts, and from calls. There are only so many, and none
of them is one of those that belong to every extrinsic. -/

namespace StateTransition

open Item (Under under_head under_row not_under not_under_head)

variable {ρ : Type} {Account Number Index : Type} [DecidableEq Account] [Word Number]

namespace Rules

variable {rules : Rules Account Number} {who source target : Account}

/-- What else happens when accounts come into being and die is not logged. -/
structure SilentLives (rules : Rules Account Number) : Prop where
  created : ∀ who, Action.Logs rules 0 (rules.accountCreated who)
  killed : ∀ who, Action.Logs rules 0 (rules.accountKilled who)

def balanceItems : List Item.Name := [.account, .totalIssuance]

theorem apart_of_log {names : List Item.Name} (foreign : ∀ name ∈ logNames, name ∉ names)
    (key : Bytes) (under : Under logNames key) : ¬Under names key :=
  under.apart foreign

omit [DecidableEq Account] in
theorem account_under (who : Account) : Under balanceItems (rules.accountSlot who).key :=
  under_row .account (by decide) rfl who

private theorem changeIssuance_logs (change : Balance → Balance) :
    Action.Logs rules 0 (changeIssuance change) :=
  .of_local (changeIssuance_local (under_head .totalIssuance (by decide : _ ∈ balanceItems)) change)
    (apart_of_log (by decide))

private theorem putFree_logs (who : Account) (free : Option Balance) :
    Action.Logs rules 0 (Action.change (rules.putFree who free)) :=
  .of_local (Action.Local.change (putFree_local (account_under who) free)) (apart_of_log (by decide))

/-! ### References -/

private theorem settleArrival_logs (lives : rules.SilentLives) (arrival : Arrival) :
    Action.Logs rules 1 (rules.settleArrival who arrival) := by
  cases arrival with
  | existed => exact (Action.Logs.pure Arrival.existed).mono (Nat.zero_le 1)
  | created =>
      have created : Action.Logs rules 1 (rules.afterCreation who) :=
        (lives.created who).behind fun _ => Action.Logs.deposit rfl
      exact created.ahead fun _ => Action.Logs.pure Arrival.created

private theorem incrementProviders_logs (lives : rules.SilentLives) :
    Action.Logs rules 1 (rules.incrementProviders who) := by
  have counts : Action.Logs rules 0
      (Action.update ((rules.accountSlot who).modify (·.withProvider))) :=
    .of_local (Action.Local.update (Slot.seen_modify _) (Slot.modify_local (account_under who) _))
      (apart_of_log (by decide))
  exact counts.behind (settleArrival_logs lives)

private theorem decrementProviders_logs (lives : rules.SilentLives) :
    Action.Logs rules 1 (rules.decrementProviders who) := by
  have death : Action.Logs rules 1 (rules.afterDeath who) :=
    (lives.killed who).behind fun _ => Action.Logs.deposit rfl
  have nothing : ∀ outcome : Except DispatchError Departure,
      Action.Logs rules 1 (pure outcome : Action (Except DispatchError Departure)) :=
    fun outcome => (Action.Logs.pure outcome).mono (Nat.zero_le 1)
  refine (Action.Logs.look _).behind fun existed => ?_
  refine Action.Logs.behind (.of_local (Action.Local.update (Slot.seen_tryModifyStored _)
    (Slot.tryModifyStored_local (account_under who) _)) (apart_of_log (by decide))) fun outcome => ?_
  rcases outcome with cause | ⟨_ | _⟩
  · exact nothing _
  · cases existed with
    | false => exact nothing _
    | true => exact death.ahead fun _ => Action.Logs.pure _
  · exact nothing _

/-! ### Balances -/

private theorem settleFree_logs (lives : rules.SilentLives) (isNew : Bool) (free : Balance) :
    Attempt.Logs rules 2 (rules.settleFree who isNew free) := by
  unfold settleFree
  cases isNew with
  | true =>
      cases free == 0 with
      | true => exact (Attempt.Logs.pure ()).mono (Nat.zero_le 2)
      | false =>
          have endows : Attempt.Logs rules 1 (do
              Action.change (rules.putFree who (some free))
              rules.deposit (.balances (.endowed who free)) : Attempt DispatchError Unit) :=
            (Attempt.Logs.lift (putFree_logs who _)).behind fun _ =>
              Attempt.Logs.lift (Action.Logs.deposit rfl)
          exact (Attempt.Logs.lift (incrementProviders_logs lives)).bind fun _ => endows
  | false =>
      cases free == 0 with
      | false => exact (Attempt.Logs.lift (putFree_logs who _)).mono (Nat.zero_le 2)
      | true =>
          have leaves : Attempt.Logs rules 1 (do
              let _ ← ExceptT.mk (rules.decrementProviders who) : Attempt DispatchError Unit) :=
            (Attempt.Logs.mk (decrementProviders_logs lives)).ahead fun _ => Attempt.Logs.pure _
          refine Attempt.Logs.mono ?_ (Nat.le_succ 1)
          refine (Attempt.Logs.look _).behind fun info => ?_
          refine (Attempt.Logs.demand _ _).behind fun _ => ?_
          exact (Attempt.Logs.lift (putFree_logs who none)).behind fun _ => leaves

private theorem tryChangeFree_logs (lives : rules.SilentLives)
    (change : Balance → Bool → Except DispatchError (ρ × Balance)) :
    Attempt.Logs rules 3 (rules.tryChangeFree who change) := by
  refine (Attempt.Logs.look _).behind fun before => ?_
  refine (Attempt.Logs.liftExcept _).behind fun ⟨answer, wanted⟩ => ?_
  dsimp only
  rcases rules.withoutDust wanted with ⟨kept, _ | lost⟩
  · exact ((settleFree_logs lives _ kept).ahead fun _ => Attempt.Logs.pure _).mono (Nat.le_succ 2)
  · have dusts : Attempt.Logs rules 1 (do
        Rules.changeIssuance (Word.saturatingSub · lost)
        rules.deposit (.balances (.dustLost who lost))
        return (answer, some lost) : Attempt DispatchError (ρ × Option Balance)) :=
      (Attempt.Logs.lift (changeIssuance_logs _)).behind fun _ =>
        (Attempt.Logs.lift (Action.Logs.deposit rfl)).ahead fun _ => Attempt.Logs.pure _
    exact (settleFree_logs lives _ kept).bind fun _ => dusts

theorem setFree_logs (lives : rules.SilentLives) (free : Balance) :
    Attempt.Logs rules 3 (rules.setFree who free) :=
  (tryChangeFree_logs lives _).ahead fun _ => Attempt.Logs.pure PUnit.unit

theorem transfer_logs (lives : rules.SilentLives) (amount : Balance) (existence : Existence) :
    Attempt.Logs rules 7 (rules.transfer source target amount existence) := by
  unfold transfer
  by_cases idle : amount = 0 ∨ source = target
  · rw [if_pos idle]
    exact (Attempt.Logs.pure ()).mono (Nat.zero_le 7)
  · have moves : ∀ sourceFree targetFree : Balance, Attempt.Logs rules (3 + (3 + 1)) (do
        rules.setFree source sourceFree
        rules.setFree target targetFree
        rules.deposit (.balances (.transfer source target amount))) := fun _ _ =>
      (setFree_logs lives _).bind fun _ => (setFree_logs lives _).bind fun _ =>
        Attempt.Logs.lift (Action.Logs.deposit rfl)
    rw [if_neg idle]
    refine (Attempt.Logs.look _).behind fun atSource => ?_
    refine (Attempt.Logs.liftExcept _).behind fun sourceFree => ?_
    refine (Attempt.Logs.look _).behind fun atTarget => ?_
    refine (Attempt.Logs.liftExcept _).behind fun targetFree => ?_
    refine (Attempt.Logs.demand _ _).behind fun _ => ?_
    refine (Attempt.Logs.demand _ _).behind fun _ => ?_
    refine (Attempt.Logs.look _).behind fun info => ?_
    exact (Attempt.Logs.demand _ _).behind fun _ => moves sourceFree targetFree

theorem createInExisting_logs (lives : rules.SilentLives) (amount : Balance) :
    Attempt.Logs rules 4 (rules.createInExisting who amount) := by
  have noted : Action.Logs rules 1 (rules.noteCreated who amount) :=
    (changeIssuance_logs _).behind fun _ => Action.Logs.deposit rfl
  unfold createInExisting
  by_cases idle : amount = 0
  · rw [if_pos idle]
    exact (Attempt.Logs.pure 0).mono (Nat.zero_le 4)
  · rw [if_neg idle]
    exact (tryChangeFree_logs lives _).bind fun _ =>
      (Attempt.Logs.lift noted).ahead fun _ => Attempt.Logs.pure amount

/-! ### Calls -/

theorem setCode_logs {code : Bytes} {world after : World}
    (run : rules.setCode code world = .ok () after) :
    rules.AddsFew 1 world.store after.store := by
  have renews : Action.Local (Under [.code]) (Action.change (·.put Item.codeKey code)) :=
    Action.Local.change (Store.Local.put (under_head .code (by decide)) code)
  have tells : Action.Local (Under [.digest])
      (Action.change (Environment.addDigestItem .environmentUpdated)) :=
    Action.Local.change (Slot.modify_local (under_head .digest (by decide)) _)
  have sets : Action.Logs rules 1 (rules.setCode code) :=
    (Action.Logs.of_local renews (apart_of_log (by decide))).behind fun _ =>
      (Action.Logs.of_local tells (apart_of_log (by decide))).behind fun _ =>
        Action.Logs.deposit rfl
  exact sets world () after run

theorem runBalanceCall_logs (lives : rules.SilentLives) {signer : Option Account}
    {call : BalanceCall (Address Account Index)} {post : PostInfo} {world after : World}
    (run : (rules.runBalanceCall (.ofSigner signer) call).run world = .ok (.ok post) after) :
    rules.AddsFew 7 world.store after.store := by
  obtain ⟨source, target, amount, existence, _, sends⟩ := runBalanceCall_sends run
  exact transfer_logs lives amount existence world _ after sends.run

end Rules

theorem SystemStep.logs {rules : Rules Account Number} {origin : Origin Account} {call : SystemCall}
    {world after : World} (step : SystemStep rules origin call world after) :
    rules.AddsFew 1 world.store after.store := by
  have authorized : ∀ {change : Store → Store} {ended : World},
      Store.Local (Under [.authorizedUpgrade]) change →
      rules.AddsFew 1 (change world.store) ended.store →
      rules.AddsFew 1 world.store ended.store := fun isLocal few =>
    (Rules.AddsFew.nothing fun key under =>
      isLocal.spares world.store key (Rules.apart_of_log (by decide) key under)).trans few
  cases step with
  | remarks text known => exact (Rules.AddsFew.nothing fun _ _ => rfl).mono (Nat.zero_le 1)
  | notes text signed deposits => exact .of_deposit rfl deposits
  | renews root sets => exact Rules.setCode_logs sets
  | @authorizes hash _ _ root deposits =>
      exact authorized (Slot.put_local (under_head .authorizedUpgrade (by decide)) hash)
        (.of_deposit rfl deposits)
  | upgrades known sets =>
      exact authorized (Slot.erase_local (under_head .authorizedUpgrade (by decide)))
        (Rules.setCode_logs sets)

end StateTransition
