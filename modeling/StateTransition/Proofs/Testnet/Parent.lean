import StateTransition.Proofs.Chain.Parent
import StateTransition.Proofs.Testnet.Authoring
import StateTransition.Proofs.Testnet.Pool

set_option autoImplicit false

/-! The parent of a block of the test network. An importer accepts a block whatever hash is recorded
for its parent, and has the one that the block names in its place afterwards. -/

namespace StateTransition.Testnet

/-! ### Traps -/

private theorem runTimestamp_avoids (origin : Origin AccountId) (call : TimestampCall) :
    Attempt.Avoids .parentHash (Timestamp.run origin call) := by
  obtain ⟨moment⟩ := call
  have forced : Attempt.Avoids .parentHash
      ((liftM (Action.change (Timestamp.force moment)) : Attempt DispatchError Unit) >>= fun _ =>
        pure PostInfo.unchanged) :=
    Attempt.Avoids.of_total ((Attempt.Total.lift (Action.Total.change _)).bind fun _ =>
      Attempt.Total.pure _)
  have stopped : ∀ cause, cause ≠ Trap.parentHash → Attempt.Avoids .parentHash
      (ExceptT.lift (Action.trap cause) : Attempt DispatchError Unit) := fun _ different =>
    Attempt.Avoids.lift (Action.Avoids.trap different)
  have timed : ∀ inTime : Bool, Attempt.Avoids .parentHash do
      if !inTime then ExceptT.lift (Action.trap .timestampTooEarly)
      Action.change (Timestamp.force moment)
      return PostInfo.unchanged := fun inTime =>
    ((stopped .timestampTooEarly nofun).bind fun _ => forced).ite forced
  refine (Attempt.Avoids.of_total (Attempt.Total.liftExcept _)).bind fun _ => ?_
  refine (Attempt.Avoids.of_total (Attempt.Total.look _)).bind fun already => ?_
  have once : Attempt.Avoids .parentHash do
      if !(← Attempt.look (Timestamp.follows moment)) then
        ExceptT.lift (Action.trap .timestampTooEarly)
      Action.change (Timestamp.force moment)
      return PostInfo.unchanged :=
    (Attempt.Avoids.of_total (Attempt.Total.look _)).bind timed
  exact ((stopped .timestampRepeated nofun).bind fun _ => once).ite once

theorem dispatch_avoids (call : Call) (signer : Option AccountId) :
    Action.Avoids .parentHash (dispatch call (.ofSigner signer)) := by
  cases call with
  | system call =>
      exact Action.Avoids.of_total (dispatch_total signer (by cases call <;> nofun))
  | timestamp call => exact StateTransition.Call.layered_avoids (runTimestamp_avoids _ call)
  | balances call =>
      exact Action.Avoids.of_total (dispatch_total signer (by cases call <;> nofun))

private theorem check_avoids (extrinsic : Extrinsic) :
    (form.check extrinsic).Avoids .parentHash := by
  obtain ⟨signature, call⟩ := extrinsic
  change Query.Avoids _ (ExtrinsicForm.check
    (.verified chain .unit (.octets 64) Ed25519.verify) _)
  unfold ExtrinsicForm.verified
  cases signature with
  | none => exact Query.Avoids.pure _
  | some signature =>
      dsimp only
      cases signature.place.resolve? with
      | none => exact Query.Avoids.pure _
      | some who =>
          refine (Rules.signedParts_avoids _).bind fun context => ?_
          cases context with
          | error cause => exact Query.Avoids.pure _
          | ok context => exact Query.Avoids.pure _

theorem sparesParent : chain.SparesParent form where
  lives := safeLives
  fees _ := Action.Total.pure ()
  check := check_avoids
  dispatch := dispatch_avoids

private theorem timestampFinish_avoids : Action.Avoids .parentHash Timestamp.finish := by
  refine (Action.Avoids.of_total (Action.Total.update _)).bind fun found => ?_
  have missing : Trap.timestampMissing ≠ .parentHash := nofun
  exact (Action.Avoids.trap missing).ite (Action.Avoids.of_total (Action.Total.pure ()))

theorem sealing_avoids (number : Number) : Action.Avoids .parentHash (chain.sealing number) :=
  Chain.sealing_avoids (List.forall_mem_nil _) (List.forall_mem_cons.mpr
    ⟨fun _ => timestampFinish_avoids,
      List.forall_mem_singleton.mpr fun _ => Rules.updateMultiplier_avoids⟩) number

/-! ### Imports -/

/-- The parent of a block is not checked against what is recorded: with another hash there the block
is imported no otherwise, with none of them in the trap of that check, and a block that is imported
has put the hash it names in its place. -/
theorem execute_overlooks_parent (header : Header Number) (extrinsics : List Extrinsic)
    (later : header.number ≠ 0) (world : World) (recorded : Hash) :
    Action.answer (chain.execute form ⟨header, extrinsics⟩)
          ⟨header.parentRow.put recorded world.store, world.notes⟩ =
        Action.answer (chain.execute form ⟨header, extrinsics⟩) world ∧
      (Action.ending (chain.execute form ⟨header, extrinsics⟩)
          ⟨header.parentRow.put recorded world.store, world.notes⟩).store.visible =
        (Action.ending (chain.execute form ⟨header, extrinsics⟩) world).store.visible ∧
      Action.answer (chain.execute form ⟨header, extrinsics⟩) world ≠ .error .parentHash ∧
      ∀ after, chain.execute form ⟨header, extrinsics⟩ world = .ok () after →
        header.parentRow.get after.store = header.parentHash := by
  have positive : Word.isZero header.number = false :=
    beq_eq_false_iff_ne.mpr fun zero => later (UInt32.toNat_inj.mp zero)
  have alike : AlikeBut header.parentRow.key (header.parentRow.put recorded world.store)
      world.store := by
    intro key different
    rw [Slot.put, Store.write, Store.get?_put, if_neg different]
  obtain ⟨answers, endings⟩ := Chain.execute_alike blocksLocal rfl
    ⟨header.parentRow.put recorded world.store, world.notes⟩ world alike
  refine ⟨answers, endings, ?_, fun after run => ?_⟩
  · exact Chain.execute_avoids blocksLocal sparesParent (begin_total header)
      (sealing_avoids header.number) positive world
  · exact Chain.execute_records blocksLocal (by decide) run

/-- The first block of a chain that tells the time and names the zero hash as its parent, and the
state of the genesis. -/
theorem imports_foreign_child :
    ∃ (genesis : Genesis) (start : Store) (header : Header Number) (after : World),
      genesis.state = .ok start ∧ header.number = 1 ∧ header.parentHash = .zero 32 ∧
      header.parentRow.stored? start = some Rules.genesisHash ∧
      chain.execute form ⟨header, [⟨none, .timestamp (.set 1000)⟩]⟩ ⟨start, []⟩ = .ok () after := by
  let genesis : Genesis := ⟨[], .one⟩
  let start : Store := (Action.ending (rules.begin genesis) ⟨.empty, []⟩).store.flatten
  have begun : genesis.state = .ok start := Genesis.state_of_answer (by decide +kernel)
  have built : (Action.answer (author (Header.blank 1) [⟨none, .timestamp (.set 1000)⟩])
      ⟨start, []⟩).map (fun found => (found.1.draft, found.2)) =
      .ok (Header.blank 1, [.ok (.ok ())]) := by decide +kernel
  obtain ⟨header, ended, drafted, builds⟩ := drafted_of_author built
    (List.forall_mem_singleton.mpr rfl)
  have number : header.number = 1 := congrArg Header.number drafted
  have parent : header.parentHash = .zero 32 := congrArg Header.parentHash drafted
  have positive : Word.isZero header.number = false := by
    rw [number]
    rfl
  obtain ⟨after, run, _⟩ := execute_of_builds positive ⟨1, by decide⟩ builds
  refine ⟨genesis, start, header, after, begun, number, parent, ?_, run⟩
  unfold Header.parentRow
  rw [number]
  decide +kernel

/-- A block that follows on another genesis is imported, and rewrites the hash of this one. -/
theorem execute_overlooks_parent_first :
    ∃ (header : Header Number) (extrinsics : List Extrinsic) (start : Store) (after : World),
      header.number = 1 ∧ (Item.blockHash.row (0 : Number)).get start = Rules.genesisHash ∧
      chain.execute form ⟨header, extrinsics⟩ ⟨start, []⟩ = .ok () after ∧
      (Item.blockHash.row (0 : Number)).get after.store = .zero 32 := by
  obtain ⟨_, start, header, after, _, number, parent, recorded, run⟩ := imports_foreign_child
  have row : header.parentRow = Item.blockHash.row (0 : Number) := by
    unfold Header.parentRow
    rw [number]
    rfl
  have later : header.number ≠ 0 := by
    rw [number]
    decide
  obtain ⟨_, _, _, records⟩ := execute_overlooks_parent header _ later ⟨start, []⟩ (.zero 32)
  have rewritten := records after run
  rw [row] at recorded rewritten
  refine ⟨header, _, start, after, number, ?_, run, rewritten.trans parent⟩
  rw [Slot.get, recorded]
  rfl

/-- A mismatch with the recorded parent is not fatal. -/
theorem execute_parent_unchecked :
    ¬∀ (header : Header Number) (extrinsics : List Extrinsic) (world : World) (recorded : Hash),
      header.number ≠ 0 → header.parentRow.stored? world.store = some recorded →
      header.parentHash ≠ recorded →
      Action.answer (chain.execute form ⟨header, extrinsics⟩) world = .error .parentHash := by
  intro checked
  obtain ⟨_, start, header, after, _, number, parent, recorded, run⟩ := imports_foreign_child
  have later : header.number ≠ 0 := by
    rw [number]
    decide
  have foreign : header.parentHash ≠ Rules.genesisHash := by
    rw [parent]
    decide
  have trapped := checked header [⟨none, .timestamp (.set 1000)⟩] ⟨start, []⟩ _ later recorded
    foreign
  rw [Action.answer_of_run run] at trapped
  cases trapped

end StateTransition.Testnet
