import StateTransition.Proofs.Block
import StateTransition.Proofs.Chain.Beginning
import StateTransition.Proofs.Privilege

set_option autoImplicit false

/-! The digest of a block. It begins with what the engines have put into the header beforehand, and
what it has become stands in the header in the end. -/

namespace StateTransition

variable {Account Number Call : Type} [Word Number]
variable {keys : Bytes → Prop}

namespace Digest

theorem Short.beforehand {digest : Digest} (short : digest.Short) :
    (Digest.beforehand digest).Short where
  left := Nat.lt_of_le_of_lt (List.length_filter_le _ _) short.1
  right item member := short.2 item (List.mem_filter.mp member).1

theorem environmentUpdated_not_beforehand (digest : Digest) :
    DigestItem.environmentUpdated ∉ digest.beforehand := by
  intro member
  have told := (List.mem_filter.mp member).2
  cases told

end Digest

theorem Digest.Short.left {first second : Digest} (short : (first ++ second).Short) :
    first.Short where
  left := Nat.lt_of_le_of_lt (List.length_append ▸ Nat.le_add_right _ _) short.1
  right item member := short.2 item (List.mem_append_left _ member)

private theorem Environment.digest_setUp {digest : Digest} (short : digest.Short) (number : Number)
    (parent : Hash) (store : Store) :
    Item.digest.get (setUp number parent digest store) = digest := by
  have later : Store.Local (Item.Under [.parentHash, .blockHash, .blockWeight])
      (fun store => Item.blockWeight.erase
        ((Item.blockHash.row (Word.saturatingSub number Word.one)).put parent
          (Item.parentHash.put parent store))) :=
    ((Slot.put_local (Item.under_head .parentHash (by decide)) _).comp
      (Slot.put_local (Item.under_row .blockHash (by decide) rfl _) _)).comp
      (Slot.erase_local (Item.under_head .blockWeight (by decide)))
  exact Slot.get_after_put Item.digest later (Item.not_under_head .digest (by decide))
    (Digest.codec_faithful.decodeFront?_encode digest short) _

namespace Chain

variable {chain : Chain Account Number Call} {header : Header Number} {before after : World}

theorem begin_digest (isLocal : chain.BeginsLocal keys) (outside : ¬keys Item.digest.key)
    (short : header.digest.beforehand.Short) (run : chain.begin header before = .ok () after) :
    Item.digest.get after.store = header.digest.beforehand := by
  obtain ⟨_, upgraded, _, shows⟩ :=
    begin_shows isLocal outside (Item.not_under_head .digest (by decide)) run
  exact (Slot.get_congr _ shows).trans (Environment.digest_setUp short _ _ _)

theorem sealing_digest (isLocal : chain.EndsLocal keys) (held : HoldsBlock Number keys)
    (outside : ¬keys Item.digest.key) {number : Number}
    (run : chain.sealing number before = .ok header after) :
    header.digest = Item.digest.get before.store := by
  obtain ⟨finished, finishes, seals⟩ := sealing_eq_ok run
  cases congrArg Prod.fst seals
  have erased : Store.Local (Item.Under [.phase, .extrinsicsLength]) fun store =>
      Item.extrinsicsLength.erase (Item.phase.erase store) :=
    (Slot.erase_local (Item.under_head .phase (by decide))).comp
      (Slot.erase_local (Item.under_head .extrinsicsLength (by decide)))
  refine Slot.get_congr Item.digest ?_
  exact (erased.spares finished.store _ (Item.not_under_head .digest (by decide))).trans
    (sealing_spares isLocal held.extrinsic held.count finishes outside)

end Chain

/-! ### What calls add to it -/

private theorem Environment.digest_addDigestItem {item : DigestItem} {store : Store}
    (short : (Item.digest.get store ++ [item]).Short) :
    Item.digest.get (addDigestItem item store) = Item.digest.get store ++ [item] := by
  change Item.digest.get (Item.digest.put (Item.digest.get store ++ [item]) store) = _
  rw [Slot.get, Slot.stored?_put _ (Digest.codec_faithful.decodeFront?_encode _ short)]
  rfl

/-- What a call on the chain adds to the digest if it succeeds. -/
def SystemCall.tells : SystemCall → Digest
  | .setCode _ | .applyUpgrade _ => [.environmentUpdated]
  | _ => []

variable [DecidableEq Account]

section

variable {rules : Rules Account Number} {world ended : World}

theorem Rules.deposit_digest {event : Event Account}
    (run : rules.deposit event world = .ok () ended) :
    Item.digest.get ended.store = Item.digest.get world.store := by
  have logs : Action.Local (Item.Under [.events, .eventCount]) (rules.deposit event) :=
    Rules.deposit_local ⟨Item.under_head .events (by decide), Item.under_head .eventCount (by decide)⟩
      event
  exact Slot.get_congr _ (logs.spared run (Item.not_under_head .digest (by decide)))

private theorem Rules.setCode_digest {code : Bytes}
    (short : (Item.digest.get world.store ++ [DigestItem.environmentUpdated]).Short)
    (run : rules.setCode code world = .ok () ended) :
    Item.digest.get ended.store = Item.digest.get world.store ++ [.environmentUpdated] := by
  obtain ⟨_, _, writes, afterCode⟩ := Action.bind_eq_ok run
  rw [Action.change_run] at writes
  cases writes
  obtain ⟨_, _, tells, logs⟩ := Action.bind_eq_ok afterCode
  rw [Action.change_run] at tells
  cases tells
  have coding : Store.Local (Item.Under [.code]) (·.put Item.codeKey code) :=
    Store.Local.put (Item.under_head .code (by decide)) code
  have still : Item.digest.get (world.store.put Item.codeKey code) = Item.digest.get world.store :=
    Slot.get_congr _ (coding.spares world.store _ (Item.not_under_head .digest (by decide)))
  rw [Rules.deposit_digest logs, Environment.digest_addDigestItem (by rwa [still]), still]

theorem SystemStep.digest {origin : Origin Account} {call : SystemCall}
    (step : SystemStep rules origin call world ended)
    (short : (Item.digest.get world.store ++ call.tells).Short) :
    Item.digest.get ended.store = Item.digest.get world.store ++ call.tells := by
  cases step with
  | remarks text known => exact (List.append_nil _).symm
  | notes text signed deposits =>
      exact (Rules.deposit_digest deposits).trans (List.append_nil _).symm
  | renews root sets => exact Rules.setCode_digest short sets
  | @authorizes hash _ _ root deposits =>
      have granting : Store.Local (Item.Under [.authorizedUpgrade])
          (Item.authorizedUpgrade.put hash) :=
        Slot.put_local (Item.under_head .authorizedUpgrade (by decide)) hash
      rw [Rules.deposit_digest deposits]
      exact (Slot.get_congr _ (granting.spares world.store _
        (Item.not_under_head .digest (by decide)))).trans (List.append_nil _).symm
  | upgrades authorized sets =>
      have taking : Store.Local (Item.Under [.authorizedUpgrade]) Item.authorizedUpgrade.erase :=
        Slot.erase_local (Item.under_head .authorizedUpgrade (by decide))
      have still : Item.digest.get (Item.authorizedUpgrade.erase world.store) =
          Item.digest.get world.store :=
        Slot.get_congr _ (taking.spares world.store _ (Item.not_under_head .digest (by decide)))
      have told := Rules.setCode_digest (by rwa [still]) sets
      rwa [still] at told

end

end StateTransition
