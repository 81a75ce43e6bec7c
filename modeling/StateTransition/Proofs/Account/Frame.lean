import StateTransition.Account.Balance
import StateTransition.Proofs.Action

set_option autoImplicit false

/-! What operations on accounts may change. All of them are local: they write the records of the
accounts they are about, the total issuance and the log of events, and no other keys. -/

namespace StateTransition

variable {α ρ ε : Type} {Account Number : Type} [DecidableEq Account] [Word Number]
variable {keys : Bytes → Prop}

structure HoldsLog (keys : Bytes → Prop) : Prop where
  events : keys Item.eventsKey
  count : keys Item.eventCount.key

namespace Slot

variable {β : Type} {slot : Slot (List α) β}

theorem append_local (inside : keys slot.key) (item : Codec α) (value : α) :
    Store.Local keys (slot.append item value) := by
  have seen := (Store.seen_get? slot.key).map fun found => Codec.decodeLength (found.getD [])
  refine Store.Local.of_view seen fun decoded => ?_
  cases decoded with
  | error cause =>
      exact ⟨_, Store.Local.put inside _, fun store found => by rw [append, Store.append, found]⟩
  | ok parts =>
      exact ⟨_, (Store.Local.put inside _).ite Store.Local.id, fun store found => by
        rw [append, Store.append, found]⟩

end Slot

namespace Rules

variable {rules : Rules Account Number} {who source target : Account}

/-- The books on an account are among the keys, and what its creation and its death bring about
stays among them. -/
structure HoldsBooks (rules : Rules Account Number) (who : Account) (keys : Bytes → Prop) :
    Prop where
  record : keys (rules.accountSlot who).key
  issuance : keys Item.totalIssuance.key
  log : HoldsLog keys
  created : Action.Local keys (rules.accountCreated who)
  killed : Action.Local keys (rules.accountKilled who)

omit [DecidableEq Account] in
theorem HoldsBooks.mono {others : Bytes → Prop} (books : rules.HoldsBooks who keys)
    (within : ∀ key, keys key → others key) : rules.HoldsBooks who others where
  record := within _ books.record
  issuance := within _ books.issuance
  log := ⟨within _ books.log.events, within _ books.log.count⟩
  created := books.created.mono within
  killed := books.killed.mono within

/-! ### The log -/

theorem recordEvent_local (log : HoldsLog keys) (topics : List Hash) (event : Event Account) :
    Store.Local keys (rules.recordEvent topics event) := by
  have seenNumber : Store.Seen (Item.number : Slot Number Number).get := Slot.seen_get _
  have seenCount : Store.Seen Item.eventCount.get := Slot.seen_get _
  have seenPhase : Store.Seen Item.phase.get := Slot.seen_get _
  have seen := seenNumber.bind fun number => seenCount.bind fun used => seenPhase.map fun phase =>
    (Word.isZero number, Word.checkedAdd? used 1, phase)
  refine Store.Local.of_view seen fun shown => ?_
  obtain ⟨first, counted, phase⟩ := shown
  cases first with
  | true =>
      refine ⟨_, Store.Local.id, fun store found => ?_⟩
      obtain ⟨first, _⟩ := Prod.mk.inj found
      rw [recordEvent, if_pos first]
  | false =>
      cases counted with
      | none =>
          refine ⟨_, Store.Local.id, fun store found => ?_⟩
          obtain ⟨later, rest⟩ := Prod.mk.inj found
          obtain ⟨full, _⟩ := Prod.mk.inj rest
          rw [recordEvent, later, full]
          rfl
      | some count =>
          let record : EventRecord Account := { phase := phase.getD .beginning, event, topics }
          have counts : Store.Local keys (Item.eventCount.put count) :=
            Slot.put_local log.count count
          have appends : Store.Local keys (rules.eventSlot.append
              (EventRecord.codec rules.parts rules.account) record) :=
            Slot.append_local log.events _ _
          refine ⟨_, counts.comp appends, fun store found => ?_⟩
          obtain ⟨later, rest⟩ := Prod.mk.inj found
          obtain ⟨counted, shown⟩ := Prod.mk.inj rest
          rw [recordEvent, later, counted, shown]
          rfl

theorem deposit_local (log : HoldsLog keys) (event : Event Account) :
    Action.Local keys (rules.deposit event) :=
  Action.Local.change (recordEvent_local log [] event)

/-! ### References -/

private theorem settleArrival_local (books : rules.HoldsBooks who keys) (arrival : Arrival) :
    Action.Local keys (rules.settleArrival who arrival) := by
  cases arrival with
  | existed => exact Action.Local.pure Arrival.existed
  | created =>
      exact (books.created.bind fun _ => deposit_local books.log _).bind fun _ =>
        Action.Local.pure Arrival.created

private theorem incrementProviders_local (books : rules.HoldsBooks who keys) :
    Action.Local keys (rules.incrementProviders who) :=
  (Action.Local.update (Slot.seen_modify _) (Slot.modify_local books.record _)).bind
    (settleArrival_local books)

private theorem decrementProviders_local (books : rules.HoldsBooks who keys) :
    Action.Local keys (rules.decrementProviders who) := by
  have seen : Store.Seen fun store => ((rules.accountSlot who).stored? store).isSome :=
    (Slot.seen_stored? _).map Option.isSome
  refine (Action.Local.look seen).bind fun existed => ?_
  refine (Action.Local.update (Slot.seen_tryModifyStored _)
    (Slot.tryModifyStored_local books.record _)).bind fun outcome => ?_
  have death : Action.Local keys (rules.afterDeath who) :=
    books.killed.bind fun _ => deposit_local books.log _
  rcases outcome with cause | ⟨_ | _⟩
  · exact Action.Local.pure _
  · cases existed with
    | false => exact Action.Local.pure _
    | true => exact death.bind fun _ => Action.Local.pure _
  · exact Action.Local.pure _

omit [DecidableEq Account] in
theorem incrementNonce_local (record : keys (rules.accountSlot who).key) :
    Action.Local keys (rules.incrementNonce who) := by
  have seen : Store.Seen fun store => (rules.accountInfo who store).withTransaction :=
    (Slot.seen_get _).map AccountInfo.withTransaction
  exact (Action.Local.ask seen).bind fun info => Action.Local.change (Slot.put_local record info)

/-! ### Balances -/

section

omit [DecidableEq Account]

theorem seen_accountInfo (who : Account) : Store.Seen (rules.accountInfo who) := Slot.seen_get _

theorem seen_freeBalance (who : Account) : Store.Seen (rules.freeBalance who) :=
  (seen_accountInfo who).map AccountInfo.free

theorem putFree_local (record : keys (rules.accountSlot who).key) (free : Option Balance) :
    Store.Local keys (rules.putFree who free) := by
  refine Store.Local.bind (fun (info : AccountInfo Number) store =>
    (if info.isProvided then
      ((.ok (), (rules.accountSlot who).put { info with free := free.getD 0 } store) :
        Except Empty Unit × Store)
      else (.ok (), (rules.accountSlot who).erase store)).2)
    (Slot.seen_get _) fun info => ?_
  cases info.isProvided with
  | false => exact Slot.erase_local record
  | true => exact Slot.put_local record _

end

theorem changeIssuance_local (issuance : keys Item.totalIssuance.key)
    (change : Balance → Balance) : Action.Local keys (changeIssuance change) :=
  Action.Local.update (Slot.seen_modify _) (Slot.modify_local issuance _)

private theorem settleFree_local (books : rules.HoldsBooks who keys) (isNew : Bool)
    (free : Balance) : Attempt.Local keys (rules.settleFree who isNew free) := by
  have written : ∀ kept, Action.Local keys (Action.change (rules.putFree who kept)) := fun kept =>
    Action.Local.change (putFree_local books.record kept)
  unfold settleFree
  cases isNew with
  | true =>
      cases free == 0 with
      | true => exact Attempt.Local.pure ()
      | false =>
          refine (Attempt.Local.lift (incrementProviders_local books)).bind fun _ => ?_
          refine (Attempt.Local.lift (written _)).bind fun _ => ?_
          exact Attempt.Local.lift (deposit_local books.log _)
  | false =>
      cases free == 0 with
      | false => exact Attempt.Local.lift (written _)
      | true =>
          refine (Attempt.Local.look (seen_accountInfo who)).bind fun info => ?_
          refine (Attempt.Local.demand _ _).bind fun _ => ?_
          refine (Attempt.Local.lift (written none)).bind fun _ => ?_
          refine (Attempt.Local.mk (decrementProviders_local books)).bind fun _ => ?_
          exact Attempt.Local.pure PUnit.unit

private theorem tryChangeFree_local (books : rules.HoldsBooks who keys)
    (change : Balance → Bool → Except DispatchError (ρ × Balance)) :
    Attempt.Local keys (rules.tryChangeFree who change) := by
  refine (Attempt.Local.look (seen_freeBalance who)).bind fun before => ?_
  refine (Attempt.Local.liftExcept _).bind fun ⟨result, wanted⟩ => ?_
  dsimp only
  rcases rules.withoutDust wanted with ⟨kept, _ | lost⟩
  · exact (settleFree_local books _ kept).bind fun _ => Attempt.Local.pure _
  · refine (settleFree_local books _ kept).bind fun _ => ?_
    refine (Attempt.Local.lift (changeIssuance_local books.issuance _)).bind fun _ => ?_
    exact (Attempt.Local.lift (deposit_local books.log _)).bind fun _ => Attempt.Local.pure _

theorem setFree_local (books : rules.HoldsBooks who keys) (free : Balance) :
    Attempt.Local keys (rules.setFree who free) :=
  (tryChangeFree_local books _).bind fun _ => Attempt.Local.pure PUnit.unit

theorem transfer_local (ofSource : rules.HoldsBooks source keys)
    (ofTarget : rules.HoldsBooks target keys) (amount : Balance) (existence : Existence) :
    Attempt.Local keys (rules.transfer source target amount existence) := by
  refine Attempt.Local.ite (Attempt.Local.pure ()) ?_
  refine (Attempt.Local.look (seen_freeBalance source)).bind fun atSource => ?_
  refine (Attempt.Local.liftExcept _).bind fun sourceFree => ?_
  refine (Attempt.Local.look (seen_freeBalance target)).bind fun atTarget => ?_
  refine (Attempt.Local.liftExcept _).bind fun targetFree => ?_
  refine (Attempt.Local.demand _ _).bind fun _ => ?_
  refine (Attempt.Local.demand _ _).bind fun _ => ?_
  refine (Attempt.Local.look (seen_accountInfo source)).bind fun info => ?_
  refine (Attempt.Local.demand _ _).bind fun _ => ?_
  refine (setFree_local ofSource sourceFree).bind fun _ => ?_
  refine (setFree_local ofTarget targetFree).bind fun _ => ?_
  exact Attempt.Local.lift (deposit_local ofSource.log _)

private theorem noteCreated_local (books : rules.HoldsBooks who keys) (amount : Balance) :
    Action.Local keys (rules.noteCreated who amount) :=
  (changeIssuance_local books.issuance _).bind fun _ => deposit_local books.log _

theorem createInExisting_local (books : rules.HoldsBooks who keys) (amount : Balance) :
    Attempt.Local keys (rules.createInExisting who amount) := by
  refine Attempt.Local.ite (Attempt.Local.pure 0) ?_
  refine (tryChangeFree_local books _).bind fun _ => ?_
  exact (Attempt.Local.lift (noteCreated_local books amount)).bind fun _ =>
    Attempt.Local.pure amount

theorem withdraw_local (books : rules.HoldsBooks who keys) (amount : Balance)
    (existence : Existence) : Attempt.Local keys (rules.withdraw who amount existence) := by
  refine Attempt.Local.ite (Attempt.Local.pure 0) ?_
  refine (Attempt.Local.look (seen_freeBalance who)).bind fun free => ?_
  refine (Attempt.Local.liftExcept _).bind fun rest => ?_
  refine (tryChangeFree_local books _).bind fun _ => ?_
  refine (Attempt.Local.lift (changeIssuance_local books.issuance _)).bind fun _ => ?_
  exact (Attempt.Local.lift (deposit_local books.log _)).bind fun _ => Attempt.Local.pure amount

theorem endow_local (books : ∀ who, rules.HoldsBooks who keys)
    (issuance : keys Item.totalIssuance.key) (endowments : List (Account × Balance)) :
    Action.Local keys (rules.endow endowments) := by
  unfold endow
  cases rules.endowmentFault? endowments with
  | some fault => exact Action.Local.pure _
  | none =>
      refine (Action.Local.change (Slot.put_local issuance _)).bind fun _ => ?_
      have written := Action.Local.forIn endowments (fun endowment (_ : PUnit) =>
        (incrementProviders_local (books endowment.1)).bind fun _ =>
          (Action.Local.change (putFree_local (books endowment.1).record (some endowment.2))).bind
            fun _ => Action.Local.pure (ForInStep.yield PUnit.unit)) PUnit.unit
      exact written.bind fun _ => Action.Local.pure _

end Rules

end StateTransition
