import Mathlib.Data.List.Rotate
import StateTransition.Proofs.Chain.Frame

set_option autoImplicit false

/-! From the beginning of a block to its end. The number of the block and the hash of the block
before it are written when it begins; nothing that is run in the block touches them, so its header
has them in the end. -/

namespace StateTransition

variable {Account Number Call Form : Type} [DecidableEq Account] [Word Number]
variable {keys : Bytes → Prop}

/-! ### The beginning -/

namespace Environment

variable (number : Number) (parent : Hash) (digest : Digest) (store : Store)

theorem number_setUp :
    (Environment.number (setUp number parent digest store) : Number) = number := by
  have later : Store.Local (Item.Under [.digest, .parentHash, .blockHash, .blockWeight])
      fun store => Item.blockWeight.erase
        ((Item.blockHash.row (Word.saturatingSub number Word.one)).put parent
          (Item.parentHash.put parent (Item.digest.put digest store))) :=
    (((Slot.put_local (Item.under_head .digest (by decide)) _).comp
      (Slot.put_local (Item.under_head .parentHash (by decide)) _)).comp
      (Slot.put_local (Item.under_row .blockHash (by decide) rfl _) _)).comp
      (Slot.erase_local (Item.under_head .blockWeight (by decide)))
  exact Slot.get_after_put (Item.number : Slot Number Number) later
    (Item.not_under_head .number (by decide)) (Codec.word_faithful.decodeFront?_encode _ trivial) _

private theorem parentHash_setUp :
    Item.parentHash.get (setUp number parent digest store) = parent := by
  have later : Store.Local (Item.Under [.blockHash, .blockWeight])
      fun store => Item.blockWeight.erase
        ((Item.blockHash.row (Word.saturatingSub number Word.one)).put parent store) :=
    (Slot.put_local (Item.under_row .blockHash (by decide) rfl _) _).comp
      (Slot.erase_local (Item.under_head .blockWeight (by decide)))
  exact Slot.get_after_put Item.parentHash later (Item.not_under_head .parentHash (by decide))
    ((Codec.octets_faithful 32).decodeFront?_encode _ trivial) _

private theorem blockHash_setUp :
    blockHash (Word.saturatingSub number Word.one) (setUp number parent digest store) =
      parent := by
  have later : Store.Local (Item.Under [.blockWeight]) Item.blockWeight.erase :=
    Slot.erase_local (Item.under_head .blockWeight (by decide))
  exact Slot.get_after_put (Item.blockHash.row (Word.saturatingSub number Word.one)) later
    (Item.not_under_row .blockHash (by decide) rfl _)
    ((Codec.octets_faithful 32).decodeFront?_encode _ trivial) _

end Environment

namespace Chain

variable {chain : Chain Account Number Call}
variable {form : ExtrinsicForm Account Number Call Form}

/-- What is run in a block is local, and leaves the number of the block and the hashes of earlier
blocks alone. -/
structure BlocksLocal (chain : Chain Account Number Call)
    (form : ExtrinsicForm Account Number Call Form) (keys : Bytes → Prop) : Prop where
  extrinsics : chain.ExtrinsicsLocal form keys
  begin : ∀ hook ∈ chain.beginHooks, ∀ number, Action.Local keys (hook number)
  idle : ∀ hook ∈ chain.idleHooks, ∀ number remaining, Action.Local keys (hook number remaining)
  finish : ∀ hook ∈ chain.finishHooks, ∀ number, Action.Local keys (hook number)
  count : keys Item.extrinsicCount.key
  number : ¬keys (Item.number : Slot Number Number).key
  parent : ¬keys Item.parentHash.key
  hashes : ∀ number : Number, ¬keys (Item.blockHash.row number).key

/-- What a block knows of its own place in the chain. -/
structure Placed (number : Number) (parent : Hash) (store : Store) : Prop where
  number : Environment.number store = number
  parent : Item.parentHash.get store = parent

omit [DecidableEq Account] in
theorem Placed.spared {number : Number} {parent : Hash} {before after : Store}
    (placed : Placed number parent before) (isLocal : chain.BlocksLocal form keys)
    (spares : ∀ key, ¬keys key → after.get? key = before.get? key) :
    Placed number parent after where
  number := (Slot.get_congr _ (spares _ isLocal.number)).trans placed.number
  parent := (Slot.get_congr _ (spares _ isLocal.parent)).trans placed.parent

theorem totalWeight_local {hooks : List (Action Weight)}
    (isLocal : ∀ hook ∈ hooks, Action.Local keys hook) : Action.Local keys (totalWeight hooks) :=
  Action.Local.foldlM hooks (fun total hook member =>
    (isLocal hook member).bind fun weight => Action.Local.pure (total.saturatingAdd weight))
    Weight.zero

def setOut (chain : Chain Account Number Call) (header : Header Number) (upgradeWeight : Weight) :
    Action Unit := do
  let hookWeight ← totalWeight (chain.beginHooks.map (· header.number))
  let weight := (upgradeWeight.saturatingAdd hookWeight).saturatingAdd chain.rules.weights.baseBlock
  Action.change (Environment.addWeight weight .mandatory)
  Action.change Environment.finishBeginning

omit [DecidableEq Account] in
theorem setOut_local (isLocal : chain.BlocksLocal form keys) (header : Header Number)
    (upgradeWeight : Weight) : Action.Local keys (chain.setOut header upgradeWeight) := by
  have hooks : Action.Local keys (totalWeight (chain.beginHooks.map (· header.number))) := by
    apply totalWeight_local
    intro hook member
    obtain ⟨beginHook, among, rfl⟩ := List.mem_map.mp member
    exact isLocal.begin beginHook among header.number
  refine hooks.bind fun hookWeight => ?_
  refine (Action.Local.change
    (Environment.addWeight_local isLocal.extrinsics.room.weight _ _)).bind fun _ => ?_
  exact Action.Local.change (Slot.put_local isLocal.extrinsics.held.phase _)

omit [DecidableEq Account] in
theorem begin_places (isLocal : chain.BlocksLocal form keys) {header : Header Number}
    {world after : World} (run : chain.begin header world = .ok () after) :
    Placed header.number header.parentHash after.store ∧
      Environment.blockHash (Word.saturatingSub header.number Word.one) after.store =
        header.parentHash := by
  obtain ⟨_, cleared, _, afterClearing⟩ := Action.bind_eq_ok run
  obtain ⟨upgradeWeight, upgraded, _, afterUpgrade⟩ := Action.bind_eq_ok afterClearing
  obtain ⟨_, prepared, prepares, afterSetUp⟩ := Action.bind_eq_ok afterUpgrade
  rw [Action.change_run] at prepares
  cases prepares
  have sets : chain.setOut header upgradeWeight _ = .ok () after := afterSetUp
  have spares := (setOut_local isLocal header upgradeWeight).spares
    ⟨Environment.setUp header.number header.parentHash (Digest.beforehand header.digest)
      upgraded.store, upgraded.notes⟩
  rw [Action.ending_of_run sets] at spares
  have placed : Placed header.number header.parentHash
      (Environment.setUp header.number header.parentHash
        (Digest.beforehand header.digest) upgraded.store) :=
    ⟨Environment.number_setUp _ _ _ _, Environment.parentHash_setUp _ _ _ _⟩
  refine ⟨placed.spared isLocal spares, ?_⟩
  exact (Slot.get_congr _ (spares _ (isLocal.hashes _))).trans
    (Environment.blockHash_setUp _ _ _ _)

/-! ### The end -/

def sealing (chain : Chain Account Number Call) (number : Number) : Action (Header Number) := do
  Action.change Environment.finishExtrinsics
  chain.idleAndFinish number
  Action.update chain.rules.finishBlock

/-- What the hooks at the end of a block may change. -/
structure EndsLocal (chain : Chain Account Number Call) (keys : Bytes → Prop) : Prop where
  idle : ∀ hook ∈ chain.idleHooks, ∀ number remaining, Action.Local keys (hook number remaining)
  finish : ∀ hook ∈ chain.finishHooks, ∀ number, Action.Local keys (hook number)
  weight : keys Item.blockWeight.key

omit [DecidableEq Account] in
theorem BlocksLocal.ends (isLocal : chain.BlocksLocal form keys) : chain.EndsLocal keys :=
  ⟨isLocal.idle, isLocal.finish, isLocal.extrinsics.room.weight⟩

theorem rotate_eq {α : Type} (items : List α) (place : Nat) :
    rotate items place = items.rotate place :=
  List.rotate_eq_drop_append_take_mod.symm

theorem mem_rotate {α : Type} {items : List α} {place : Nat} {item : α} :
    item ∈ rotate items place ↔ item ∈ items := by
  rw [rotate_eq, List.mem_rotate]

section

omit [DecidableEq Account]

theorem idle_local (weight : keys Item.blockWeight.key)
    (isLocal : ∀ hook ∈ chain.idleHooks, ∀ number remaining,
      Action.Local keys (hook number remaining)) (number : Number) :
    Action.Local keys (chain.idle number) := by
  have seen : Store.Seen Item.blockWeight.get := Slot.seen_get _
  refine (Action.Local.look seen).bind fun consumed => ?_
  refine Action.Local.ite ?_ (Action.Local.pure ())
  have hooks : Action.Local keys
      (useRemaining (chain.rules.weights.maxBlock.saturatingSub consumed.total)
        ((rotate chain.idleHooks (Word.toNat number)).map (· number))) := by
    refine Action.Local.foldlM _ (fun used hook member => ?_) Weight.zero
    obtain ⟨idleHook, among, rfl⟩ := List.mem_map.mp member
    exact (isLocal idleHook (mem_rotate.mp among) number _).bind fun weight =>
      Action.Local.pure (used.saturatingAdd weight)
  exact hooks.bind fun used =>
    Action.Local.change (Environment.addWeight_local weight used _)

theorem idleAndFinish_local (isLocal : chain.EndsLocal keys) (number : Number) :
    Action.Local keys (chain.idleAndFinish number) := by
  refine (idle_local isLocal.weight isLocal.idle number).bind fun _ => ?_
  apply Action.Local.forM
  intro hook member
  obtain ⟨finishHook, among, rfl⟩ := List.mem_map.mp member
  exact isLocal.finish finishHook among number

theorem sealing_local (isLocal : chain.EndsLocal keys) (held : HoldsBlock Number keys)
    (number : Number) : Action.Local keys (chain.sealing number) := by
  have acts := Rules.finishBlock_acts chain.rules held
  refine (Action.Local.change
    (Environment.finishExtrinsics_local held.extrinsic held.count)).bind fun _ => ?_
  refine (idleAndFinish_local isLocal number).bind fun _ => ?_
  exact Action.Local.update acts.seen acts.isLocal

theorem finish_local (isLocal : chain.EndsLocal keys) (held : HoldsBlock Number keys) :
    Action.Local keys chain.finish := by
  have seen : Store.Seen (Environment.number : Store → Number) := Slot.seen_get Item.number
  have acts := Rules.finishBlock_acts chain.rules held
  refine (Action.Local.change
    (Environment.finishExtrinsics_local held.extrinsic held.count)).bind fun _ => ?_
  refine (Action.Local.look seen).bind fun number => ?_
  refine (idleAndFinish_local isLocal number).bind fun _ => ?_
  exact Action.Local.update acts.seen acts.isLocal

theorem sealing_eq_ok {number : Number} {world after : World} {header : Header Number}
    (run : chain.sealing number world = .ok header after) :
    ∃ finished, chain.idleAndFinish number
        ⟨Environment.finishExtrinsics world.store, world.notes⟩ = .ok () finished ∧
      chain.rules.finishBlock finished.store = (header, after.store) := by
  obtain ⟨_, noted, notes, afterNoting⟩ := Action.bind_eq_ok run
  obtain ⟨_, finished, finishes, seals⟩ := Action.bind_eq_ok afterNoting
  rw [Action.change_run] at notes
  cases notes
  rw [Action.update_run] at seals
  cases seals
  exact ⟨finished, finishes, rfl⟩

theorem sealing_spares (isLocal : chain.EndsLocal keys) (held : HoldsExtrinsic keys)
    (count : keys Item.extrinsicCount.key) {number : Number} {world finished : World}
    (finishes : chain.idleAndFinish number
      ⟨Environment.finishExtrinsics world.store, world.notes⟩ = .ok () finished) {key : Bytes}
    (outside : ¬keys key) : finished.store.get? key = world.store.get? key :=
  ((idleAndFinish_local isLocal number).spared finishes outside).trans
    ((Environment.finishExtrinsics_local held count).spares world.store key outside)

theorem BlocksLocal.sealing_spares (isLocal : chain.BlocksLocal form keys) {number : Number}
    {world finished : World} (finishes : chain.idleAndFinish number
      ⟨Environment.finishExtrinsics world.store, world.notes⟩ = .ok () finished) {key : Bytes}
    (outside : ¬keys key) : finished.store.get? key = world.store.get? key :=
  Chain.sealing_spares isLocal.ends isLocal.extrinsics.held isLocal.count finishes outside

theorem sealing_places (isLocal : chain.BlocksLocal form keys) {number : Number} {parent : Hash}
    {world after : World} {header : Header Number} (placed : Placed number parent world.store)
    (run : chain.sealing number world = .ok header after) :
    header.number = number ∧ header.parentHash = parent := by
  obtain ⟨finished, finishes, seals⟩ := sealing_eq_ok run
  have still : Placed number parent finished.store :=
    placed.spared isLocal fun _ outside => isLocal.sealing_spares finishes outside
  -- The phase and the length of the extrinsics are erased before the header is put together.
  have erased : Store.Local (Item.Under [.phase, .extrinsicsLength]) fun store =>
      Item.extrinsicsLength.erase (Item.phase.erase store) :=
    (Slot.erase_local (Item.under_head .phase (by decide))).comp
      (Slot.erase_local (Item.under_head .extrinsicsLength (by decide)))
  have numberSpared := erased.spares finished.store (Item.number : Slot Number Number).key
    (Item.not_under_head .number (by decide))
  have parentSpared := erased.spares finished.store Item.parentHash.key
    (Item.not_under_head .parentHash (by decide))
  cases congrArg Prod.fst seals
  exact ⟨(Slot.get_congr _ numberSpared).trans still.number,
    (Slot.get_congr _ parentSpared).trans still.parent⟩

/-- An author seals the block whose number is known in the end. -/
theorem finish_seals (world : World) : chain.finish world =
    chain.sealing (Environment.number (Environment.finishExtrinsics world.store)) world := by
  have looks : Action.look (Environment.number : Store → Number)
      ⟨Environment.finishExtrinsics world.store, world.notes⟩ =
        .ok (Environment.number (Environment.finishExtrinsics world.store))
          ⟨Environment.finishExtrinsics world.store, world.notes⟩ := Action.look_run _ _
  unfold finish sealing
  rw [Action.bind_run_ok (Action.change_run _ _), Action.bind_run_ok (Action.change_run _ _)]
  exact Action.bind_run_ok looks

/-- The author of a block and its importer seal it alike. -/
theorem finish_run (isLocal : chain.BlocksLocal form keys) {number : Number} {parent : Hash}
    {world : World} (placed : Placed number parent world.store) :
    chain.finish world = chain.sealing number world := by
  have noting := Environment.finishExtrinsics_local isLocal.extrinsics.held isLocal.count
  have known : (Environment.number (Environment.finishExtrinsics world.store) : Number) = number :=
    (placed.spared isLocal (noting.spares world.store)).number
  rw [finish_seals, known]

end

/-! ### Importing -/

theorem execute_eq (header : Header Number) (extrinsics : List Form) :
    chain.execute form ⟨header, extrinsics⟩ = (do
      chain.begin header
      Action.ask (chain.checkBeginning form ⟨header, extrinsics⟩)
      chain.applyAll form extrinsics
      let found ← chain.sealing header.number
      Action.ask fun _ => compareHeaders header found) := by
  unfold execute sealing
  simp only [bind_assoc]

theorem applyAll_cons_iff {first : Form} {others : List Form} {before after : World} :
    chain.applyAll form (first :: others) before = .ok () after ↔
      ∃ result middle, (chain.applyExtrinsic form first).run before = .ok (.ok result) middle ∧
        chain.applyAll form others middle = .ok () after := by
  constructor
  · intro run
    obtain ⟨outcome, middle, atFirst, atOthers⟩ := Action.bind_eq_ok run
    cases outcome with
    | error cause => cases atOthers
    | ok result => exact ⟨result, middle, atFirst, atOthers⟩
  · rintro ⟨result, middle, atFirst, atOthers⟩
    rw [applyAll, Action.bind_run_ok atFirst]
    exact atOthers

/-- The stages that the import of a block goes through. -/
theorem execute_iff {header : Header Number} {extrinsics : List Form} {before after : World} :
    chain.execute form ⟨header, extrinsics⟩ before = .ok () after ↔
      ∃ begun applied found, chain.begin header before = .ok () begun ∧
        chain.checkBeginning form ⟨header, extrinsics⟩ begun.store = .ok () ∧
        chain.applyAll form extrinsics begun = .ok () applied ∧
        chain.sealing header.number applied = .ok found after ∧
        compareHeaders header found = .ok () := by
  rw [execute_eq]
  constructor
  · intro run
    obtain ⟨_, begun, begins, fromBeginning⟩ := Action.bind_eq_ok run
    obtain ⟨_, checked, checks, fromCheck⟩ := Action.bind_eq_ok fromBeginning
    obtain ⟨_, applied, applies, fromExtrinsics⟩ := Action.bind_eq_ok fromCheck
    obtain ⟨found, sealed, seals, compares⟩ := Action.bind_eq_ok fromExtrinsics
    obtain ⟨allowed, rfl⟩ := Action.ask_eq_ok checks
    obtain ⟨equal, rfl⟩ := Action.ask_eq_ok compares
    exact ⟨_, applied, found, begins, allowed, applies, seals, equal⟩
  · rintro ⟨begun, applied, found, begins, allowed, applies, seals, equal⟩
    have checks : Action.ask (chain.checkBeginning form ⟨header, extrinsics⟩) begun =
        .ok () begun := Action.ask_of_ok allowed
    rw [Action.bind_run_ok begins, Action.bind_run_ok checks, Action.bind_run_ok applies,
      Action.bind_run_ok seals]
    exact Action.ask_of_ok equal

omit [Word Number] in
theorem compareHeaders_eq_ok {given found : Header Number} :
    compareHeaders given found = .ok () ↔
      given.digest = found.digest ∧ given.stateRoot = found.stateRoot ∧
        given.extrinsicsRoot = found.extrinsicsRoot := by
  unfold compareHeaders
  constructor
  · intro compared
    by_cases digests : given.digest = found.digest
    · by_cases states : given.stateRoot = found.stateRoot
      · by_cases roots : given.extrinsicsRoot = found.extrinsicsRoot
        · exact ⟨digests, states, roots⟩
        · simp [digests, states, roots] at compared
      · simp [digests, states] at compared
        cases compared
    · by_cases lengths : given.digest.length = found.digest.length
      · simp [lengths, digests] at compared
        cases compared
      · simp [lengths] at compared
        cases compared
  · rintro ⟨digests, states, roots⟩
    simp [digests, states, roots]
    rfl

omit [DecidableEq Account] in
theorem checkBeginning_eq_ok (block : Block Number Form) {store : Store} :
    chain.checkBeginning form block store = .ok () ↔
      Word.isZero block.header.number = false ∧
        Environment.blockHash (Word.saturatingSub block.header.number Word.one) store =
          block.header.parentHash ∧
        ∃ count, chain.inherentsFirst form block.extrinsics = .ok count := by
  unfold checkBeginning
  dsimp only
  constructor
  · intro found
    by_cases misplaced : Word.isZero block.header.number = true ∨
        Environment.blockHash (Word.saturatingSub block.header.number Word.one) store ≠
          block.header.parentHash
    · rw [if_pos misplaced] at found
      cases found
    · rw [if_neg misplaced] at found
      obtain ⟨later, known⟩ := not_or.mp misplaced
      refine ⟨Bool.eq_false_iff.mpr later, Decidable.not_not.mp known, ?_⟩
      cases inherents : chain.inherentsFirst form block.extrinsics with
      | error place =>
          rw [inherents] at found
          cases found
      | ok count => exact ⟨count, rfl⟩
  · rintro ⟨later, known, count, inherents⟩
    have placed : ¬(Word.isZero block.header.number = true ∨
        Environment.blockHash (Word.saturatingSub block.header.number Word.one) store ≠
          block.header.parentHash) := by
      rw [later, known]
      rintro (zero | other)
      · cases zero
      · exact other rfl
    rw [if_neg placed, inherents]
    rfl

end Chain

end StateTransition
