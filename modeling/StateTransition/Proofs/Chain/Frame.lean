import StateTransition.Chain.Block
import StateTransition.Proofs.Layer
import StateTransition.Proofs.Transaction.Frame

set_option autoImplicit false

/-! What the parts of a block may change. If the calls, the hooks and the rules of a chain are
local, then so are its extrinsics and its blocks. -/

namespace StateTransition

variable {Account Number Call Form : Type} [Word Number]
variable {keys : Bytes → Prop}

/-- What is known of the extrinsic being applied is among the keys. -/
structure HoldsExtrinsic (keys : Bytes → Prop) : Prop where
  data : ∀ index, keys (Item.extrinsicData.row index).key
  index : keys Item.extrinsicIndex.key
  phase : keys Item.phase.key

namespace Environment

private theorem noteExtrinsic_local (held : HoldsExtrinsic keys) (encoded : Bytes) :
    Store.Local keys (noteExtrinsic encoded) := by
  have seen : Store.Seen extrinsicIndex := (Slot.seen_get Item.extrinsicIndex).map (Option.getD · 0)
  exact Store.Local.bind (fun index => (Item.extrinsicData.row index).put encoded) seen
    fun index => Slot.put_local (held.data index) encoded

theorem nextExtrinsic_local (index : keys Item.extrinsicIndex.key) (phase : keys Item.phase.key) :
    Store.Local keys nextExtrinsic := by
  have seen : Store.Seen extrinsicIndex := (Slot.seen_get Item.extrinsicIndex).map (Option.getD · 0)
  exact Store.Local.bind (fun index store =>
    Item.phase.put (.extrinsic (index + 1)) (Item.extrinsicIndex.put (index + 1) store)) seen
    fun _ => (Slot.put_local index _).comp (Slot.put_local phase _)

theorem addWeight_local (inside : keys Item.blockWeight.key) (weight : Weight)
    (kind : DispatchClass) : Store.Local keys (addWeight weight kind) :=
  Slot.modify_local inside _

end Environment

theorem Environment.finishExtrinsics_local (held : HoldsExtrinsic keys)
    (count : keys Item.extrinsicCount.key) : Store.Local keys finishExtrinsics := by
  have acts : Store.Acts keys fun store => ((), finishExtrinsics store) :=
    Store.Acts.bind (fun index store =>
        ((), Item.phase.put .finalization (Item.extrinsicCount.put (Option.getD index 0) store)))
      (Slot.take_acts held.index) fun _ =>
        Store.Acts.after (fun store => ((), store))
          ((Slot.put_local count _).comp (Slot.put_local held.phase _)) (Store.Acts.answer ())
  exact acts.isLocal

theorem Environment.takeExtrinsics_acts (data : ∀ index, keys (Item.extrinsicData.row index).key)
    (count index : Nat) : Store.Acts keys fun store => takeExtrinsics store count index := by
  induction count generalizing index with
  | zero => exact Store.Acts.answer []
  | succ count ih =>
      refine Store.Acts.bind (fun first store =>
        (first :: (takeExtrinsics store count (index + 1)).1,
          (takeExtrinsics store count (index + 1)).2))
        (Slot.take_acts (data (UInt32.ofNat index))) fun first => ?_
      exact Store.Acts.bind (fun others store => (first :: others, store)) (ih (index + 1))
        fun others => Store.Acts.answer _

/-! ### The end of a block

The end of a block is cut into its stages, since what it reads in the beginning is used in the end. -/

/-- What is known of the block, its extrinsics and the hashes of earlier blocks is among the
keys. -/
structure HoldsBlock (Number : Type) [Word Number] (keys : Bytes → Prop) : Prop where
  extrinsic : HoldsExtrinsic keys
  length : keys Item.extrinsicsLength.key
  count : keys Item.extrinsicCount.key
  hashes : ∀ number : Number, keys (Item.blockHash.row number).key

theorem HoldsBlock.under {names : List Item.Name}
    (within : ∀ name ∈ [Item.Name.extrinsicData, .extrinsicIndex, .phase, .extrinsicsLength,
      .extrinsicCount, .blockHash], name ∈ names) : HoldsBlock Number (Item.Under names) where
  extrinsic :=
    { data := Item.under_row .extrinsicData (within _ (by decide)) rfl
      index := Item.under_head .extrinsicIndex (within _ (by decide))
      phase := Item.under_head .phase (within _ (by decide)) }
  length := Item.under_head .extrinsicsLength (within _ (by decide))
  count := Item.under_head .extrinsicCount (within _ (by decide))
  hashes := Item.under_row .blockHash (within _ (by decide)) rfl

namespace Rules

variable (rules : Rules Account Number)

def closeBlock (number : Number) (parentHash : Hash) (digest : Digest) (extrinsics : List Bytes)
    (store : Store) : Header Number × Store :=
  (⟨parentHash, number, store.root, orderedRoot extrinsics, digest⟩, store)

def forgetHash (number : Number) (store : Store) : Store :=
  let forgotten := Word.saturatingSub (Word.saturatingSub number rules.hashCount) Word.one
  if Word.isZero forgotten then store else (Item.blockHash.row forgotten).erase store

def collectBlock (number : Number) (parentHash : Hash) (digest : Digest) (count : Option UInt32)
    (store : Store) : Header Number × Store :=
  let (extrinsics, store) := Environment.takeExtrinsics store (count.getD 0).toNat 0
  closeBlock number parentHash digest extrinsics (rules.forgetHash number store)

omit [Word Number] in
private theorem closeBlock_acts (number : Number) (parentHash : Hash) (digest : Digest)
    (extrinsics : List Bytes) :
    Store.Acts keys (closeBlock number parentHash digest extrinsics) :=
  Store.Acts.looking (fun stateRoot store =>
    ((⟨parentHash, number, stateRoot, orderedRoot extrinsics, digest⟩ : Header Number), store))
    Store.seen_root fun _ => Store.Acts.answer _

theorem forgetHash_local (hashes : ∀ number : Number, keys (Item.blockHash.row number).key)
    (number : Number) : Store.Local keys (rules.forgetHash number) :=
  Store.Local.id.ite (Slot.erase_local (hashes _))

private theorem collectBlock_acts (held : HoldsBlock Number keys) (number : Number)
    (parentHash : Hash) (digest : Digest) (count : Option UInt32) :
    Store.Acts keys (rules.collectBlock number parentHash digest count) := by
  refine Store.Acts.bind (fun extrinsics store =>
    closeBlock number parentHash digest extrinsics (rules.forgetHash number store))
    (Environment.takeExtrinsics_acts held.extrinsic.data _ 0) fun extrinsics => ?_
  exact Store.Acts.after (closeBlock number parentHash digest extrinsics)
    (rules.forgetHash_local held.hashes number)
    (closeBlock_acts number parentHash digest extrinsics)

theorem finishBlock_acts (held : HoldsBlock Number keys) : Store.Acts keys rules.finishBlock := by
  have seenNumber : Store.Seen (Environment.number : Store → Number) := Slot.seen_get Item.number
  have seenParent : Store.Seen Item.parentHash.get := Slot.seen_get _
  have seenDigest : Store.Seen Item.digest.get := Slot.seen_get _
  have cleared : Store.Local keys fun store =>
      Item.extrinsicsLength.erase (Item.phase.erase store) :=
    (Slot.erase_local held.extrinsic.phase).comp (Slot.erase_local held.length)
  refine Store.Acts.after (fun store =>
    rules.collectBlock (Environment.number store) (Item.parentHash.get store)
      (Item.digest.get store) (Item.extrinsicCount.take store).1
      (Item.extrinsicCount.take store).2) cleared ?_
  refine Store.Acts.looking (fun number store =>
    rules.collectBlock number (Item.parentHash.get store) (Item.digest.get store)
      (Item.extrinsicCount.take store).1 (Item.extrinsicCount.take store).2)
    seenNumber fun number => ?_
  refine Store.Acts.looking (fun parentHash store =>
    rules.collectBlock number parentHash (Item.digest.get store)
      (Item.extrinsicCount.take store).1 (Item.extrinsicCount.take store).2)
    seenParent fun parentHash => ?_
  refine Store.Acts.looking (fun digest store =>
    rules.collectBlock number parentHash digest
      (Item.extrinsicCount.take store).1 (Item.extrinsicCount.take store).2)
    seenDigest fun digest => ?_
  exact Store.Acts.bind (rules.collectBlock number parentHash digest) (Slot.take_acts held.count)
    (rules.collectBlock_acts held number parentHash digest)

end Rules

/-! ### Chains whose parts are local -/

variable [DecidableEq Account]

omit [DecidableEq Account] in
theorem ExtrinsicForm.seen_verified {Index Proof : Type} {chain : Chain Account Number Call}
    (index : Codec Index) (proof : Codec Proof) (verify : Proof → Bytes → Account → Bool)
    (extrinsic : Extrinsic (Address Account Index) Proof Number Call) :
    Store.Seen ((verified chain index proof verify).check extrinsic) := by
  obtain ⟨signature, call⟩ := extrinsic
  unfold verified
  cases signature with
  | none => exact Query.seen_pure _
  | some signature =>
      dsimp only
      cases signature.place.resolve? with
      | none => exact Query.seen_pure _
      | some who =>
          refine Query.seen_bind (Rules.seen_signedParts _ _) fun context => ?_
          cases context with
          | error cause => exact Query.seen_pure _
          | ok context => exact Query.seen_pure _

namespace Chain

variable {chain : Chain Account Number Call}
variable {form : ExtrinsicForm Account Number Call Form}

/-- Extrinsics of the chain look at the visible state alone, and what they may change is among
the keys. -/
structure ExtrinsicsLocal (chain : Chain Account Number Call)
    (form : ExtrinsicForm Account Number Call Form) (keys : Bytes → Prop) : Prop where
  check : ∀ extrinsic, Store.Seen (form.check extrinsic)
  admission : ∀ call, Store.Seen (chain.admitUnsigned call)
  dispatch : ∀ call signer, Action.Local keys (chain.dispatch call (.ofSigner signer))
  fees : ∀ amount, Action.Local keys (chain.rules.feesTaken amount)
  books : ∀ who, chain.rules.HoldsBooks who keys
  room : HoldsRoom keys
  log : HoldsLog keys
  held : HoldsExtrinsic keys

omit [DecidableEq Account] in
theorem ExtrinsicsLocal.mono {others : Bytes → Prop} (isLocal : chain.ExtrinsicsLocal form keys)
    (within : ∀ key, keys key → others key) : chain.ExtrinsicsLocal form others where
  check := isLocal.check
  admission := isLocal.admission
  dispatch call signer := (isLocal.dispatch call signer).mono within
  fees amount := (isLocal.fees amount).mono within
  books who := (isLocal.books who).mono within
  room := ⟨within _ isLocal.room.weight, within _ isLocal.room.length⟩
  log := ⟨within _ isLocal.log.events, within _ isLocal.log.count⟩
  held := ⟨fun index => within _ (isLocal.held.data index), within _ isLocal.held.index,
    within _ isLocal.held.phase⟩

/-! ### Extrinsics -/

theorem prepare_local (isLocal : chain.ExtrinsicsLocal form keys)
    (extrinsic : CheckedExtrinsic Account Number Call) (info : DispatchInfo) (length : Nat) :
    Attempt.Local keys (chain.prepare extrinsic info length) := by
  unfold prepare
  cases extrinsic.signer with
  | some signer => exact Rules.prepareSigned_local isLocal.room (isLocal.books _) _ info length _
  | none =>
      refine (Rules.prepareBare_local isLocal.room info length _).bind fun _ => ?_
      refine (Attempt.Local.mk (Action.Local.look (isLocal.admission _))).bind fun _ => ?_
      exact Attempt.Local.pure none

theorem apply_local (isLocal : chain.ExtrinsicsLocal form keys)
    (extrinsic : CheckedExtrinsic Account Number Call) (info : DispatchInfo) (length : Nat) :
    Attempt.Local keys (chain.apply extrinsic info length) := by
  refine (prepare_local isLocal extrinsic info length).bind fun payment => ?_
  refine (Attempt.Local.lift (isLocal.dispatch _ _)).bind fun outcome => ?_
  refine Attempt.Local.bind (Rules.settle_local isLocal.room (fun paid _ => isLocal.books paid.who)
    isLocal.fees _ _ _ _ _) fun _ => ?_
  exact Attempt.Local.pure outcome

theorem noteApplied_local (log : HoldsLog keys) (index : keys Item.extrinsicIndex.key)
    (phase : keys Item.phase.key) (outcome : DispatchOutcome) (info : DispatchInfo) :
    Action.Local keys (chain.rules.noteApplied outcome info) := by
  have next : Action.Local keys (Action.change Environment.nextExtrinsic) :=
    Action.Local.change (Environment.nextExtrinsic_local index phase)
  cases outcome with
  | ok post => exact (Rules.deposit_local log _).bind fun _ => next
  | error failure => exact (Rules.deposit_local log _).bind fun _ => next

theorem applyExtrinsic_local (isLocal : chain.ExtrinsicsLocal form keys) (extrinsic : Form) :
    Attempt.Local keys (chain.applyExtrinsic form extrinsic) := by
  refine (Attempt.Local.ask (isLocal.check extrinsic)).bind fun checked => ?_
  refine (Attempt.Local.lift
    (Action.Local.change (Environment.noteExtrinsic_local isLocal.held _))).bind fun _ => ?_
  refine (apply_local isLocal checked _ _).bind fun outcome => ?_
  refine Attempt.Local.ite (Attempt.Local.throw _) ?_
  have notes : Action.Local keys (chain.rules.noteApplied outcome (form.info extrinsic)) :=
    noteApplied_local isLocal.log isLocal.held.index isLocal.held.phase outcome _
  refine (Attempt.Local.lift notes).bind fun _ => ?_
  exact Attempt.Local.pure outcome.plain

theorem applyAll_local (isLocal : chain.ExtrinsicsLocal form keys) (extrinsics : List Form) :
    Action.Local keys (chain.applyAll form extrinsics) := by
  induction extrinsics with
  | nil => exact Action.Local.pure ()
  | cons extrinsic others ih =>
      have first : Action.Local keys (chain.applyExtrinsic form extrinsic).run :=
        applyExtrinsic_local isLocal extrinsic
      refine first.bind fun outcome => ?_
      cases outcome with
      | ok result => exact ih
      | error cause => exact Action.Local.trap _

end Chain

end StateTransition
