import StateTransition.Proofs.Chain.Beginning
import StateTransition.Proofs.Codec.Sequence
import StateTransition.Proofs.Event.Deposit

set_option autoImplicit false

/-! The log of a block. It is empty when the block has begun, and the phase that events are recorded in
goes on from extrinsic to extrinsic. -/

namespace StateTransition

open Item (Under under_head not_under_head)

theorem Phase.codec_faithful : Phase.codec.Faithful fun _ => True := by
  apply Codec.tagged_faithful
  · simp [Codec.Apart, Codec.Alternative.carrying, Codec.Alternative.plain]
  · have index : (Codec.word : Codec UInt32).Faithful fun _ => True := Codec.word_faithful
    simp only [List.forall_mem_cons]
    refine ⟨Codec.Alternative.carrying_lawful 0 index (fun _ => Iff.rfl) ?_,
      Codec.Alternative.plain_lawful 1 trivial, Codec.Alternative.plain_lawful 2 trivial,
      List.forall_mem_nil _⟩
    intro phase place
    cases phase <;> simp
  · intro phase
    cases phase <;> rfl

namespace Environment

open Rules (phaseOf)

private theorem phaseOf_put (phase : Phase) (store : Store) :
    phaseOf (Item.phase.put phase store) = phase := by
  have shown : Item.phase.get (Item.phase.put phase store) = some phase :=
    Item.phase.stored?_put (Phase.codec_faithful.decodeFront?_encode phase trivial) store
  rw [phaseOf, shown, Option.getD_some]

theorem phaseOf_nextExtrinsic (store : Store) :
    phaseOf (nextExtrinsic store) = .extrinsic (extrinsicIndex (nextExtrinsic store)) := by
  have later : Store.Local (Under [.phase])
      (Item.phase.put (.extrinsic (extrinsicIndex store + 1))) :=
    Slot.put_local (under_head .phase (by decide)) _
  have shown : Item.extrinsicIndex.get (nextExtrinsic store) = some (extrinsicIndex store + 1) :=
    Slot.get_after_put Item.extrinsicIndex later (not_under_head .extrinsicIndex (by decide))
      (Codec.word_faithful.decodeFront?_encode _ trivial) store
  have index : extrinsicIndex (nextExtrinsic store) = extrinsicIndex store + 1 := by
    rw [extrinsicIndex, shown, Option.getD_some]
  rw [index]
  exact phaseOf_put _ _

end Environment

variable {Account Number Call : Type} [DecidableEq Account]
variable {keys : Bytes → Prop}

private theorem Rules.logged_cleared (rules : Rules Account Number) (store : Store) :
    rules.Logged [] (clearEvents store) where
  lists := by
    have gone : (clearEvents store).get? rules.eventSlot.key = none :=
      Slot.get?_erase_none _ (Or.inr ((Store.get?_erase _ _ _).trans (if_pos rfl)))
    rw [Slot.Lists, gone]
    rfl
  count := by
    rw [clearEvents, Slot.get, Slot.stored?_erase]
    rfl

variable [Word Number]

namespace Chain

variable {chain : Chain Account Number Call} {header : Header Number} {before begun : World}

/-- A block begins with an empty log, as long as nothing is logged while it begins, and in the phase of
its first extrinsic. -/
theorem begin_logged (isLocal : chain.BeginsLocal keys)
    (silent : ∀ key, Under [.events, .eventCount] key → ¬keys key)
    (run : chain.begin header before = .ok () begun) :
    chain.rules.Logged [] begun.store ∧ Rules.phaseOf begun.store = .extrinsic 0 := by
  constructor
  · refine (chain.rules.logged_cleared before.store).congr fun key under => ?_
    obtain ⟨weight, upgraded, upgrades, shows⟩ :=
      begin_shows isLocal (silent key under) (under.apart (by decide)) run
    have settingUp := Environment.setUp_local header.number header.parentHash
      (Digest.beforehand header.digest)
    exact (shows.trans (settingUp.spares _ _ (under.apart (by decide)))).trans
      (upgradeIfNew_spares isLocal (silent key under) (under.apart (by decide)) upgrades)
  · obtain ⟨_, _, _, _, _, _, ends⟩ := begin_eq_ok run
    rw [ends]
    exact Environment.phaseOf_put _ _

end Chain

end StateTransition
