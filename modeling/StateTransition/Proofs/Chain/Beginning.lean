import StateTransition.Proofs.Chain.Block

set_option autoImplicit false

/-! What a block does before its first extrinsic. It writes under a few names of its own; the rest is
left to the hooks. -/

namespace StateTransition

variable {Account Number Call : Type} [Word Number]
variable {keys : Bytes → Prop}

private theorem clearEvents_local : Store.Local (Item.Under [.events, .eventCount]) clearEvents :=
  (Store.Local.erase (Item.under_head .events (by decide))).comp
    (Slot.erase_local (Item.under_head .eventCount (by decide)))

namespace Environment

theorem setUp_local (number : Number) (parent : Hash) (digest : Digest) :
    Store.Local (Item.Under [.phase, .extrinsicIndex, .number, .digest, .parentHash, .blockHash,
      .blockWeight]) (setUp number parent digest) :=
  ((((((Slot.put_local (Item.under_head .phase (by decide)) _).comp
    (Slot.put_local (Item.under_head .extrinsicIndex (by decide)) _)).comp
    (Slot.put_local (Item.under_head .number (by decide)) _)).comp
    (Slot.put_local (Item.under_head .digest (by decide)) _)).comp
    (Slot.put_local (Item.under_head .parentHash (by decide)) _)).comp
    (Slot.put_local (Item.under_row .blockHash (by decide) rfl _) _)).comp
    (Slot.erase_local (Item.under_head .blockWeight (by decide)))

theorem get?_setUp_congr {left right : Store} {key : Bytes}
    (same : left.get? key = right.get? key) (apart : key ≠ Item.digest.key) (number : Number)
    (parent : Hash) (first second : Digest) :
    (setUp number parent first left).get? key = (setUp number parent second right).get? key := by
  unfold setUp
  simp only [Slot.put, Slot.erase, Store.write, Store.get?_put, Store.get?_erase, if_neg apart, same]

theorem blockWeight_setUp (number : Number) (parent : Hash) (digest : Digest) (store : Store) :
    Item.blockWeight.get (setUp number parent digest store) = .zero := by
  unfold setUp
  rw [Slot.get, Slot.stored?_erase]
  rfl

theorem finishBeginning_local : Store.Local (Item.Under [.phase]) finishBeginning :=
  Slot.put_local (Item.under_head .phase (by decide)) _

end Environment

namespace Chain

variable {chain : Chain Account Number Call} {header : Header Number} {world before begun : World}

/-- What the hooks at the beginning of a block may change. -/
structure BeginsLocal (chain : Chain Account Number Call) (keys : Bytes → Prop) : Prop where
  upgrade : ∀ hook ∈ chain.upgradeHooks, Action.Local keys hook
  begin : ∀ hook ∈ chain.beginHooks, ∀ number, Action.Local keys (hook number)

omit [Word Number] in
theorem BeginsLocal.beginning (isLocal : chain.BeginsLocal keys) (number : Number) :
    Action.Local keys (totalWeight (chain.beginHooks.map (· number))) := by
  apply totalWeight_local
  intro hook member
  obtain ⟨beginHook, among, rfl⟩ := List.mem_map.mp member
  exact isLocal.begin beginHook among number

theorem begin_eq_ok (run : chain.begin header before = .ok () begun) :
    ∃ upgradeWeight upgraded hookWeight hooked,
      chain.upgradeIfNew ⟨clearEvents before.store, before.notes⟩ = .ok upgradeWeight upgraded ∧
      totalWeight (chain.beginHooks.map (· header.number))
        ⟨Environment.setUp header.number header.parentHash (Digest.beforehand header.digest)
          upgraded.store, upgraded.notes⟩ = .ok hookWeight hooked ∧
      begun.store = Environment.finishBeginning (Environment.addWeight
        ((upgradeWeight.saturatingAdd hookWeight).saturatingAdd chain.rules.weights.baseBlock)
          .mandatory hooked.store) := by
  obtain ⟨_, _, clears, afterClearing⟩ := Action.bind_eq_ok run
  rw [Action.change_run] at clears
  cases clears
  obtain ⟨upgradeWeight, upgraded, upgrades, afterUpgrade⟩ := Action.bind_eq_ok afterClearing
  obtain ⟨_, _, prepares, afterSetUp⟩ := Action.bind_eq_ok afterUpgrade
  rw [Action.change_run] at prepares
  cases prepares
  obtain ⟨hookWeight, hooked, hooks, afterHooks⟩ := Action.bind_eq_ok afterSetUp
  obtain ⟨_, _, weighs, finishes⟩ := Action.bind_eq_ok afterHooks
  rw [Action.change_run] at weighs
  cases weighs
  rw [Action.change_run] at finishes
  cases finishes
  exact ⟨upgradeWeight, upgraded, hookWeight, hooked, upgrades, hooks, rfl⟩

omit [Word Number] in
theorem upgradeIfNew_spares (isLocal : chain.BeginsLocal keys) {after : World} {weight : Weight}
    {key : Bytes} (outside : ¬keys key) (foreign : ¬Item.Under [.lastUpgrade] key)
    (run : chain.upgradeIfNew world = .ok weight after) :
    after.store.get? key = world.store.get? key := by
  have looked := Action.look_bind run
  by_cases upgraded : chain.isUpgraded world.store = true
  · rw [if_pos upgraded] at looked
    obtain ⟨_, hooked, hooks, later⟩ := Action.bind_eq_ok looked
    obtain ⟨_, _, remembers, ends⟩ := Action.bind_eq_ok later
    rw [Action.change_run] at remembers
    cases remembers
    cases ends
    have remembering : Store.Local (Item.Under [.lastUpgrade])
        (Item.lastUpgrade.put chain.rules.version.remembered) :=
      Slot.put_local (Item.under_head .lastUpgrade (by decide)) _
    have remembered := remembering.spares hooked.store key foreign
    have hooksSpared := (totalWeight_local isLocal.upgrade).spared hooks outside
    exact remembered.trans hooksSpared
  · rw [if_neg upgraded] at looked
    cases looked
    rfl

theorem begin_shows (isLocal : chain.BeginsLocal keys) {key : Bytes} (outside : ¬keys key)
    (foreign : ¬Item.Under [.phase, .blockWeight] key)
    (run : chain.begin header before = .ok () begun) :
    ∃ weight upgraded,
      chain.upgradeIfNew ⟨clearEvents before.store, before.notes⟩ = .ok weight upgraded ∧
      begun.store.get? key = (Environment.setUp header.number header.parentHash
        (Digest.beforehand header.digest) upgraded.store).get? key := by
  obtain ⟨upgradeWeight, upgraded, hookWeight, hooked, upgrades, hooks, ends⟩ := begin_eq_ok run
  have apart : ∀ names : List Item.Name, (∀ name ∈ names, name ∈ [Item.Name.phase, .blockWeight]) →
      ¬Item.Under names key := fun names within under => foreign (under.mono within)
  have weighing : Store.Local (Item.Under [.blockWeight])
      (Environment.addWeight ((upgradeWeight.saturatingAdd hookWeight).saturatingAdd
        chain.rules.weights.baseBlock) .mandatory) :=
    Environment.addWeight_local (Item.under_head .blockWeight (by decide)) _ .mandatory
  refine ⟨upgradeWeight, upgraded, upgrades, ?_⟩
  calc begun.store.get? key
      = (Environment.addWeight ((upgradeWeight.saturatingAdd hookWeight).saturatingAdd
          chain.rules.weights.baseBlock) .mandatory hooked.store).get? key := by
        rw [ends]
        exact Environment.finishBeginning_local.spares _ _ (apart _ (by decide))
    _ = hooked.store.get? key := weighing.spares _ _ (apart _ (by decide))
    _ = (Environment.setUp header.number header.parentHash (Digest.beforehand header.digest)
          upgraded.store).get? key := (isLocal.beginning header.number).spared hooks outside

def beginningAsides : List Item.Name :=
  [.events, .eventCount, .lastUpgrade, .digest, .phase, .blockWeight]

/-- A block that has begun has its environment set up, whatever is in its digest. -/
theorem begin_sets_up (isLocal : chain.BeginsLocal keys) {key : Bytes} (outside : ¬keys key)
    (foreign : ¬Item.Under beginningAsides key) (run : chain.begin header before = .ok () begun)
    (digest : Digest) :
    begun.store.get? key =
      (Environment.setUp header.number header.parentHash digest before.store).get? key := by
  have apart : ∀ names : List Item.Name, (∀ name ∈ names, name ∈ beginningAsides) →
      ¬Item.Under names key := fun names within under => foreign (under.mono within)
  obtain ⟨weight, upgraded, upgrades, shows⟩ := begin_shows isLocal outside (apart _ (by decide)) run
  have settled : upgraded.store.get? key = before.store.get? key :=
    (upgradeIfNew_spares isLocal outside (apart _ (by decide)) upgrades).trans
      (clearEvents_local.spares _ _ (apart _ (by decide)))
  have notDigest : key ≠ Item.digest.key := by
    rintro rfl
    exact foreign (Item.under_head .digest (by decide))
  exact shows.trans (Environment.get?_setUp_congr settled notDigest _ _ _ _)

def beginningNames : List Item.Name :=
  [.events, .eventCount, .lastUpgrade, .phase, .extrinsicIndex, .number, .digest, .parentHash,
    .blockHash, .blockWeight]

theorem begin_spares (isLocal : chain.BeginsLocal keys) {key : Bytes} (outside : ¬keys key)
    (foreign : ¬Item.Under beginningNames key) (run : chain.begin header before = .ok () begun) :
    begun.store.get? key = before.store.get? key := by
  have apart : ∀ names : List Item.Name, (∀ name ∈ names, name ∈ beginningNames) →
      ¬Item.Under names key := fun names within under => foreign (under.mono within)
  have settingUp := Environment.setUp_local header.number header.parentHash []
  exact (begin_sets_up isLocal outside (apart _ (by decide)) run []).trans
    (settingUp.spares _ _ (apart _ (by decide)))

/-! ### Verdicts for the pool -/

variable {Form : Type} {form : ExtrinsicForm Account Number Call Form}

private theorem seen_validate
    (seen : ∀ source call, Store.Seen (chain.validateUnsigned source call))
    (source : TransactionSource) (extrinsic : CheckedExtrinsic Account Number Call)
    (info : DispatchInfo) (length : Nat) :
    Store.Seen (chain.validate source extrinsic info length) := by
  unfold validate
  cases extrinsic.signer with
  | some signer => exact Rules.seen_validateSigned _ info length _ _
  | none =>
      intro left right same
      have bare : chain.rules.validateBare info length Check.all left =
          chain.rules.validateBare info length Check.all right :=
        Rules.seen_validateBare info length _ left right same
      have unsigned := seen source extrinsic.call left right same
      simp only [Query.look, bare, unsigned]

/-- The verdict on an extrinsic begins another block and writes nothing else. -/
theorem validateNext_local (check : ∀ extrinsic, Store.Seen (form.check extrinsic))
    (seen : ∀ source call, Store.Seen (chain.validateUnsigned source call))
    (source : TransactionSource) (extrinsic : Form) (current : Hash) :
    Attempt.Local (Item.Under beginningNames)
      (chain.validateNext form source extrinsic current) := by
  have number : Store.Seen fun store =>
      (Word.saturatingAdd (Environment.number store : Number) Word.one : Number) :=
    (Slot.seen_get (Item.number : Slot Number Number)).map (Word.saturatingAdd · Word.one)
  refine (Attempt.Local.look number).bind fun next => ?_
  have within : ∀ name ∈ [Item.Name.phase, .extrinsicIndex, .number, .digest, .parentHash,
      .blockHash, .blockWeight], name ∈ beginningNames := by decide
  have settingUp := (Action.Local.change (Environment.setUp_local next current [])).mono
    fun key under => under.mono within
  refine (Attempt.Local.lift settingUp).bind fun _ => ?_
  refine (Attempt.Local.ask (check extrinsic)).bind fun checked => ?_
  have verdict : Attempt.Local (Item.Under beginningNames) (Attempt.ask
      (chain.validate source checked (form.info extrinsic)
        (form.codec.encode extrinsic).length)) :=
    Attempt.Local.ask (seen_validate seen source checked _ _)
  exact ((Attempt.Local.throw _).bind fun _ => verdict).ite verdict

end Chain

end StateTransition
