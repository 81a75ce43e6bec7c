import StateTransition.Proofs.Chain.Beginning
import StateTransition.Proofs.Chain.Trap
import StateTransition.Proofs.Store.Rows
import StateTransition.Proofs.Word

set_option autoImplicit false

/-! The parent of an imported block. A block that begins records the hash it names as that of its
parent, whatever was recorded before; the importer compares the two only then. So the comparison
never fails, and what was recorded before has no part in the import. -/

namespace StateTransition

variable {Account Number Call Form : Type} [DecidableEq Account] [Word Number]
variable {keys : Bytes → Prop}

def Header.parentRow (header : Header Number) : Slot Hash Hash :=
  Item.blockHash.row (Word.saturatingSub header.number Word.one)

/-- The same is stored in both, but perhaps at one key. -/
def AlikeBut (place : Bytes) (left right : Store) : Prop :=
  ∀ key, key ≠ place → left.get? key = right.get? key

/-! ### Rows -/

theorem blockHash_row_injective {left right : Number}
    (same : (Item.blockHash.row left).key = (Item.blockHash.row right).key) : left = right :=
  Table.row_injective rfl Codec.word_faithful.readsBack same

private theorem parentRow_ne {names : List Item.Name} (foreign : Item.Name.blockHash ∉ names)
    {key : Bytes} (under : Item.Under names key) (header : Header Number) :
    key ≠ header.parentRow.key := by
  rintro rfl
  exact Item.not_under_row .blockHash foreign rfl _ under

/-! ### The beginning -/

theorem AlikeBut.step {place : Bytes} {left right : Store} (alike : AlikeBut place left right)
    {step : Store → Store}
    (same : ∀ key, left.get? key = right.get? key → (step left).get? key = (step right).get? key) :
    AlikeBut place (step left) (step right) :=
  fun key different => same key (alike key different)

private theorem clearEvents_alike {place : Bytes} {left right : Store}
    (alike : AlikeBut place left right) :
    AlikeBut place (clearEvents left) (clearEvents right) := by
  apply alike.step
  intro key same
  unfold clearEvents
  simp only [Slot.erase, Store.get?_erase, same]

namespace Environment

private theorem setUp_alike (header : Header Number) (digest : Digest) {left right : Store}
    (alike : AlikeBut header.parentRow.key left right) :
    (setUp header.number header.parentHash digest left).visible =
      (setUp header.number header.parentHash digest right).visible := by
  apply Store.visible_eq_of_get?
  intro key
  unfold setUp
  simp only [Slot.put, Slot.erase, Store.write, Store.get?_put, Store.get?_erase]
  by_cases row : key = (Item.blockHash.row (Word.saturatingSub header.number Word.one)).key
  · simp only [if_pos row]
  · simp only [alike key row]

end Environment

namespace Chain

variable {chain : Chain Account Number Call} {form : ExtrinsicForm Account Number Call Form}
variable {header : Header Number} {extrinsics : List Form} {world : World}

omit [DecidableEq Account] [Word Number] in
private theorem upgradeIfNew_run (noHooks : chain.upgradeHooks = []) (world : World) :
    chain.upgradeIfNew world = .ok .zero
      ⟨if chain.isUpgraded world.store then
          Item.lastUpgrade.put chain.rules.version.remembered world.store
        else world.store, world.notes⟩ := by
  have upgrades : chain.upgrade = pure .zero := by
    unfold upgrade
    rw [noHooks]
    rfl
  unfold upgradeIfNew
  rw [Action.bind_run_ok (Action.look_run _ _), upgrades]
  cases chain.isUpgraded world.store <;> rfl

def prepared (chain : Chain Account Number Call) (header : Header Number) (store : Store) : Store :=
  let cleared := clearEvents store
  Environment.setUp header.number header.parentHash (Digest.beforehand header.digest)
    (if chain.isUpgraded cleared then Item.lastUpgrade.put chain.rules.version.remembered cleared
      else cleared)

omit [DecidableEq Account] in
theorem begin_run (noHooks : chain.upgradeHooks = []) (header : Header Number) (world : World) :
    chain.begin header world =
      chain.setOut header .zero ⟨chain.prepared header world.store, world.notes⟩ := by
  unfold Chain.begin
  rw [Action.bind_run_ok (Action.change_run _ _), Action.bind_run_ok (upgradeIfNew_run noHooks _),
    Action.bind_run_ok (Action.change_run _ _)]
  rfl

omit [DecidableEq Account] in
private theorem prepared_alike {left right : Store}
    (alike : AlikeBut header.parentRow.key left right) :
    (chain.prepared header left).visible = (chain.prepared header right).visible := by
  have cleared := clearEvents_alike alike
  have other : Item.lastUpgrade.key ≠ header.parentRow.key := by
    have under : Item.Under [.lastUpgrade] Item.lastUpgrade.key :=
      Item.under_head .lastUpgrade (by decide)
    exact parentRow_ne (by decide) under header
  have remembered : Item.lastUpgrade.get (clearEvents left) =
      Item.lastUpgrade.get (clearEvents right) := Item.lastUpgrade.get_congr (cleared _ other)
  have upgraded : chain.isUpgraded (clearEvents left) = chain.isUpgraded (clearEvents right) := by
    unfold isUpgraded
    rw [remembered]
  unfold prepared
  apply Environment.setUp_alike
  rw [upgraded]
  cases chain.isUpgraded (clearEvents right) with
  | false => exact cleared
  | true =>
      have put : AlikeBut header.parentRow.key
          (Item.lastUpgrade.put chain.rules.version.remembered (clearEvents left))
          (Item.lastUpgrade.put chain.rules.version.remembered (clearEvents right)) := by
        apply cleared.step
        intro key same
        simp only [Slot.put, Store.write, Store.get?_put, same]
      exact put

/-! ### The import -/

def pursue (chain : Chain Account Number Call) (form : ExtrinsicForm Account Number Call Form)
    (block : Block Number Form) : Action Unit := do
  Action.ask (chain.checkBeginning form block)
  chain.applyAll form block.extrinsics
  let found ← chain.sealing block.header.number
  Action.ask fun _ => compareHeaders block.header found

theorem execute_begins (header : Header Number) (extrinsics : List Form) :
    chain.execute form ⟨header, extrinsics⟩ =
      chain.begin header >>= fun _ => chain.pursue form ⟨header, extrinsics⟩ :=
  execute_eq header extrinsics

omit [DecidableEq Account] in
private theorem seen_checkBeginning (block : Block Number Form) :
    Store.Seen (chain.checkBeginning form block) := by
  have known : Store.Seen (Environment.blockHash (Word.saturatingSub block.header.number Word.one)) :=
    Slot.seen_get _
  intro left right same
  unfold checkBeginning
  dsimp only
  rw [known left right same]

private theorem pursue_local (isLocal : chain.BlocksLocal form keys) (header : Header Number)
    (extrinsics : List Form) :
    Action.Local (fun _ => True) (chain.pursue form ⟨header, extrinsics⟩) := by
  have held : HoldsBlock Number fun _ => True :=
    ⟨⟨fun _ => trivial, trivial, trivial⟩, trivial, trivial, fun _ => trivial⟩
  refine (Action.Local.ask (seen_checkBeginning _)).bind fun _ => ?_
  refine ((applyAll_local isLocal.extrinsics extrinsics).mono fun _ _ => trivial).bind fun _ => ?_
  have ends : chain.EndsLocal fun _ => True :=
    ⟨fun hook member number remaining =>
      (isLocal.idle hook member number remaining).mono fun _ _ => trivial,
      fun hook member number => (isLocal.finish hook member number).mono fun _ _ => trivial, trivial⟩
  refine (sealing_local ends held header.number).bind fun found => ?_
  exact Action.Local.ask (Store.seen_const _)

/-- The import of a block does not depend on the hash that is recorded for its parent. -/
theorem execute_alike (isLocal : chain.BlocksLocal form keys) (noHooks : chain.upgradeHooks = [])
    (left right : World) (alike : AlikeBut header.parentRow.key left.store right.store) :
    Action.answer (chain.execute form ⟨header, extrinsics⟩) left =
        Action.answer (chain.execute form ⟨header, extrinsics⟩) right ∧
      (Action.ending (chain.execute form ⟨header, extrinsics⟩) left).store.visible =
        (Action.ending (chain.execute form ⟨header, extrinsics⟩) right).store.visible := by
  have rest : Action.Local (fun _ => True)
      (chain.setOut header .zero >>= fun _ => chain.pursue form ⟨header, extrinsics⟩) :=
    ((setOut_local isLocal header .zero).mono fun _ _ => trivial).bind fun _ =>
      pursue_local isLocal header extrinsics
  have begins : ∀ world, chain.execute form ⟨header, extrinsics⟩ world =
      (chain.setOut header .zero >>= fun _ => chain.pursue form ⟨header, extrinsics⟩)
        ⟨chain.prepared header world.store, world.notes⟩ := by
    intro world
    rw [execute_begins, Action.bind_run, Action.bind_run, begin_run noHooks]
  have agrees := rest.agrees ⟨chain.prepared header left.store, left.notes⟩
    ⟨chain.prepared header right.store, right.notes⟩ (prepared_alike alike)
  simpa only [Action.answer, Action.ending, begins] using agrees

/-! ### The check -/

omit [DecidableEq Account] in
/-- A block that follows on the one it names can only have an inherent in the wrong place. -/
theorem checkBeginning_ne (block : Block Number Form) {store : Store}
    (later : Word.isZero block.header.number = false)
    (known : Environment.blockHash (Word.saturatingSub block.header.number Word.one) store =
      block.header.parentHash) : chain.checkBeginning form block store ≠ .error .parentHash := by
  have placed : ¬(Word.isZero block.header.number = true ∨
      Environment.blockHash (Word.saturatingSub block.header.number Word.one) store ≠
        block.header.parentHash) := by
    rw [later, known]
    rintro (zero | other)
    · cases zero
    · exact other rfl
  unfold checkBeginning
  dsimp only
  rw [if_neg placed]
  intro trapped
  cases inherents : chain.inherentsFirst form block.extrinsics with
  | ok count =>
      rw [inherents] at trapped
      cases trapped
  | error place =>
      rw [inherents] at trapped
      cases trapped

omit [Word Number] in
private theorem compareHeaders_avoids (given found : Header Number) :
    Query.Avoids .parentHash fun _ => compareHeaders given found := by
  intro store trapped
  unfold compareHeaders at trapped
  by_cases lengths : given.digest.length ≠ found.digest.length
  · rw [if_pos lengths] at trapped
    cases trapped
  by_cases digests : given.digest ≠ found.digest
  · rw [if_neg lengths, if_pos digests] at trapped
    cases trapped
  by_cases states : given.stateRoot ≠ found.stateRoot
  · rw [if_neg lengths, if_neg digests, if_pos states] at trapped
    cases trapped
  by_cases roots : given.extrinsicsRoot ≠ found.extrinsicsRoot
  · rw [if_neg lengths, if_neg digests, if_neg states, if_pos roots] at trapped
    cases trapped
  · rw [if_neg lengths, if_neg digests, if_neg states, if_neg roots] at trapped
    cases trapped

/-- Behind the beginning of a block the comparison with its parent cannot fail. -/
theorem execute_avoids (isLocal : chain.BlocksLocal form keys) (spares : chain.SparesParent form)
    (begins : Action.Total (chain.begin header))
    (seals : Action.Avoids .parentHash (chain.sealing header.number))
    (later : Word.isZero header.number = false) :
    Action.Avoids .parentHash (chain.execute form ⟨header, extrinsics⟩) := by
  intro world
  obtain ⟨_, begun, run⟩ := begins world
  obtain ⟨_, known⟩ := begin_places isLocal run
  have rest : Action.Avoids .parentHash (do
      chain.applyAll form extrinsics
      let found ← chain.sealing header.number
      Action.ask fun _ => compareHeaders header found : Action Unit) :=
    (applyAll_avoids spares extrinsics).bind fun _ => seals.bind fun found =>
      Action.Avoids.ask (compareHeaders_avoids header found)
  rw [execute_begins, Action.bind_answer, Action.answer_of_run run, Action.ending_of_run run]
  dsimp only
  unfold pursue
  rw [Action.bind_answer]
  intro trapped
  cases checked : Action.answer (Action.ask (chain.checkBeginning form ⟨header, extrinsics⟩))
      begun with
  | ok _ =>
      rw [checked] at trapped
      exact rest _ trapped
  | error cause =>
      rw [checked] at trapped
      cases trapped
      rw [Action.answer, Action.ask_run] at checked
      cases found : chain.checkBeginning form ⟨header, extrinsics⟩ begun.store with
      | ok _ =>
          rw [found] at checked
          cases checked
      | error cause =>
          rw [found] at checked
          cases checked
          exact checkBeginning_ne ⟨header, extrinsics⟩ later known found

/-! ### What is recorded -/

theorem toNat_one_of_pos {number : Number} (positive : 0 < Word.toNat number) :
    Word.toNat (Word.one : Number) = 1 := by
  have bound := Word.toNat_lt number
  exact Word.toNat_clamp_of_lt (by omega)

section

omit [DecidableEq Account]

private theorem get?_forgetHash_congr (rules : Rules Account Number) {left right : Store}
    {key : Bytes} (number : Number) (same : left.get? key = right.get? key) :
    (rules.forgetHash number left).get? key = (rules.forgetHash number right).get? key := by
  unfold Rules.forgetHash
  dsimp only
  split
  · exact same
  · simp only [Slot.erase, Store.get?_erase, same]

/-- The hash of the block before is not the one that is forgotten. -/
theorem forgetHash_parent (deep : 0 < Word.toNat chain.rules.hashCount)
    (header : Header Number) (store : Store) :
    (chain.rules.forgetHash header.number store).get? header.parentRow.key =
      store.get? header.parentRow.key := by
  unfold Rules.forgetHash
  dsimp only
  have one := toNat_one_of_pos deep
  cases least : Word.isZero (Word.saturatingSub
      (Word.saturatingSub header.number chain.rules.hashCount) Word.one) with
  | true => rw [if_pos rfl]
  | false =>
      rw [if_neg Bool.false_ne_true, Slot.erase, Store.get?_erase, if_neg]
      intro same
      have met := congrArg Word.toNat (blockHash_row_injective same)
      have positive := beq_eq_false_iff_ne.mp least
      simp only [Word.toNat_saturatingSub, one] at met positive
      omega

/-- Of what ends a block only the forgetting is seen among the hashes. -/
theorem finishBlock_hashes (rules : Rules Account Number) {key : Bytes}
    (under : Item.Under [.blockHash] key) (store : Store) :
    (rules.finishBlock store).2.get? key =
      (rules.forgetHash (Environment.number store) store).get? key := by
  let cleared := Item.extrinsicsLength.erase (Item.phase.erase store)
  let counted := Item.extrinsicCount.take cleared
  let taken := Environment.takeExtrinsics counted.2 (counted.1.getD 0).toNat 0
  have clearing : Store.Local (Item.Under [.phase, .extrinsicsLength]) fun store =>
      Item.extrinsicsLength.erase (Item.phase.erase store) :=
    (Slot.erase_local (Item.under_head .phase (by decide))).comp
      (Slot.erase_local (Item.under_head .extrinsicsLength (by decide)))
  have counting : Store.Local (Item.Under [.extrinsicCount])
      fun store => (Item.extrinsicCount.take store).2 :=
    Slot.take_local (Item.under_head .extrinsicCount (by decide))
  have data : ∀ index, Item.Under [.extrinsicData] (Item.extrinsicData.row index).key :=
    Item.under_row .extrinsicData (by decide) rfl
  have taking := (Environment.takeExtrinsics_acts data (counted.1.getD 0).toNat 0).isLocal
  have number : Environment.number cleared = (Environment.number store : Number) :=
    Slot.get_congr _ (clearing.spares store _ (Item.not_under_head .number (by decide)))
  have spared : taken.2.get? key = store.get? key :=
    ((taking.spares _ _ (under.apart (by decide))).trans
      (counting.spares _ _ (under.apart (by decide)))).trans
      (clearing.spares _ _ (under.apart (by decide)))
  calc (rules.finishBlock store).2.get? key
      = (rules.forgetHash (Environment.number cleared) taken.2).get? key := rfl
    _ = (rules.forgetHash (Environment.number store) taken.2).get? key := by rw [number]
    _ = (rules.forgetHash (Environment.number store) store).get? key :=
        get?_forgetHash_congr rules _ spared

theorem finishBlock_parent (deep : 0 < Word.toNat chain.rules.hashCount) (header : Header Number)
    {store : Store} (known : Environment.number store = header.number) :
    (chain.rules.finishBlock store).2.get? header.parentRow.key =
      store.get? header.parentRow.key := by
  have under : Item.Under [.blockHash] header.parentRow.key :=
    Item.under_row .blockHash (by decide) rfl _
  rw [finishBlock_hashes chain.rules under, known]
  exact forgetHash_parent deep header store

end

theorem execute_records (isLocal : chain.BlocksLocal form keys)
    (deep : 0 < Word.toNat chain.rules.hashCount) {after : World}
    (run : chain.execute form ⟨header, extrinsics⟩ world = .ok () after) :
    header.parentRow.get after.store = header.parentHash := by
  obtain ⟨begun, applied, found, begins, _, applies, seals, _⟩ := execute_iff.mp run
  obtain ⟨placed, recorded⟩ := begin_places isLocal begins
  obtain ⟨finished, finishes, collects⟩ := sealing_eq_ok seals
  have spares : ∀ key, ¬keys key → finished.store.get? key = begun.store.get? key :=
    fun key outside => (isLocal.sealing_spares finishes outside).trans
      ((applyAll_local isLocal.extrinsics extrinsics).spared applies outside)
  have kept := finishBlock_parent deep header (placed.spared isLocal spares).number
  rw [collects] at kept
  exact (Slot.get_congr _ (kept.trans (spares _ (isLocal.hashes _)))).trans recorded

end Chain

end StateTransition
