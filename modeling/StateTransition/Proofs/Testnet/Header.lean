import StateTransition.Proofs.Chain.Digest
import StateTransition.Proofs.Chain.Forms
import StateTransition.Proofs.Testnet.Capacity

set_option autoImplicit false

/-! The header of a block that is authored. It has what the author began with, and beside it what was
found: the root of the extrinsics that were not rejected, what they have added to the digest, and the
root of the state that the block leaves, in which nothing is kept of what belonged to the block
alone. -/

namespace StateTransition.Testnet

open Environment (Cleared Complete Gathers formNames)
open Item (Under under_head under_row not_under_head)

def encoded (item : Extrinsic × Except DispatchError Unit) : Bytes := form.codec.encode item.1

/-- What a call has added to the digest, if it has succeeded. -/
def Call.told : Call → Except DispatchError Unit → Digest
  | .system call, .ok _ => call.tells
  | _, _ => []

/-! ### Extrinsics -/

theorem dispatch_digest {call : Call} {signer : Option AccountId} {outcome : DispatchOutcome}
    {before after : World} (run : dispatch call (.ofSigner signer) before = .ok outcome after)
    (short : (Item.digest.get before.store ++ call.told outcome.plain).Short) :
    Item.digest.get after.store = Item.digest.get before.store ++ call.told outcome.plain := by
  cases call with
  | timestamp call =>
      have calling : Action.Local (Under timestampNames) _ := dispatch_names (.timestamp call) signer
      exact (Slot.get_congr _ (calling.spared run (not_under_head .digest (by decide)))).trans
        (List.append_nil _).symm
  | balances call =>
      have calling : Action.Local (Under balanceNames) _ := dispatch_names (.balances call) signer
      exact (Slot.get_congr _ (calling.spared run (not_under_head .digest (by decide)))).trans
        (List.append_nil _).symm
  | system call =>
      have apart : Item.digest.key ≠ Layer.levelKey :=
        Item.Name.head_ne (by decide : Item.Name.digest ≠ .level)
      rcases Call.layered_cases (runSystemCall_names signer call) run with
        ⟨⟨error, rfl⟩, reverted⟩ | ⟨post, ended, rfl, inside, leaves⟩
      · exact (Slot.get_congr _ (reverted _ apart)).trans (List.append_nil _).symm
      · have entered : Item.digest.get (Layer.enteredWorld before).store =
            Item.digest.get before.store := Slot.get_congr _ (Layer.entered_get? _ apart)
        have step := (Rules.systemStep_of_signer inside).digest (by rwa [entered])
        rw [Slot.get_congr Item.digest (leaves _ apart), step, entered]
        rfl

namespace Included

variable {extrinsic : Extrinsic} {outcome : DispatchOutcome} {before after : World}
variable (included : Included extrinsic outcome before after)

include included

theorem gathers {forms : List Bytes} (gathers : Gathers forms before.store)
    (room : forms.length + 1 < 4294967296) :
    Gathers (forms ++ [form.codec.encode extrinsic]) after.store := by
  rw [included.ends]
  refine gathers.next room fun key under => ?_
  have uncalled : ∀ name ∈ formNames, name ∉ calledNames := by decide
  have logging : Store.Local (Under [.events, .eventCount])
      (rules.recordEvent [] (rules.ending outcome (form.info extrinsic))) :=
    Rules.recordEvent_local (holdsLog (by decide)) [] _
  exact (logging.spares _ key (under.apart (by decide))).trans
    (included.applied_noted (under.apart (by decide))
      (under.apart fun name member => Call.not_names (uncalled name member) _))

theorem digest
    (short : (Item.digest.get before.store ++ extrinsic.call.told outcome.plain).Short) :
    Item.digest.get after.store =
      Item.digest.get before.store ++ extrinsic.call.told outcome.plain := by
  have outside : ∀ names : List Item.Name, Item.Name.digest ∉ names → ¬Under names Item.digest.key :=
    fun names foreign => not_under_head .digest foreign
  have readied : Item.digest.get included.stages.ready.store = Item.digest.get before.store :=
    Slot.get_congr _ ((included.ready_spares (outside _ (by decide))).trans
      (Testnet.noted_spares _ before (outside _ (by decide))))
  have closed : Item.digest.get after.store = Item.digest.get included.stages.dispatched.store :=
    Slot.get_congr _ (((noteApplied_names _ _).spared included.notes (outside _ (by decide))).trans
      (included.applied_spares (outside _ (by decide))))
  rw [← readied] at short ⊢
  exact closed.trans (dispatch_digest included.dispatched short)

end Included

/-! ### The block -/

/-- The forms of the extrinsics that have passed, in their order. -/
def encodings (items : List (Extrinsic × Except DispatchError Unit)) : List Bytes :=
  items.map fun item => form.codec.encode item.1

/-- What the extrinsics that have passed have added to the digest. -/
def told (items : List (Extrinsic × Except DispatchError Unit)) : Digest :=
  items.flatMap fun item => item.1.call.told item.2

private theorem encodings_concat (items : List (Extrinsic × Except DispatchError Unit))
    (extrinsic : Extrinsic) (result : Except DispatchError Unit) :
    encodings (items ++ [(extrinsic, result)]) =
      encodings items ++ [form.codec.encode extrinsic] := by
  rw [encodings, List.map_append]
  rfl

private theorem told_concat (items : List (Extrinsic × Except DispatchError Unit))
    (extrinsic : Extrinsic) (result : Except DispatchError Unit) :
    told (items ++ [(extrinsic, result)]) = told items ++ extrinsic.call.told result := by
  rw [told, List.flatMap_append, List.flatMap_singleton]
  rfl

/-- What a block has while it is built: the forms of the extrinsics that have passed, which are not too
many, and behind the digest it began with what they have told. -/
structure Assembles (start : Digest) (items : List (Extrinsic × Except DispatchError Unit))
    (store : Store) : Prop where
  gathers : Gathers (encodings items) store
  counted : Counted items.length store
  digest : Digest.Short (start ++ told items) → Item.digest.get store = start ++ told items

namespace Assembles

variable {start : Digest} {items : List (Extrinsic × Except DispatchError Unit)}

theorem seen {before after : Store} (same : after.visible = before.visible)
    (assembles : Assembles start items before) : Assembles start items after where
  gathers := assembles.gathers.seen same
  counted := assembles.counted.seen same
  digest short := (Slot.seen_get Item.digest _ _ same).trans (assembles.digest short)

theorem begins {header : Header Number} {before begun : World} (cleared : Cleared before.store)
    (run : chain.begin header before = .ok () begun) :
    Assembles header.digest.beforehand [] begun.store where
  gathers := by
    refine (Gathers.setUp cleared.forms header.number header.parentHash []).congr fun key under => ?_
    exact Chain.begin_sets_up beginsLocal not_false (under.apart (by decide)) run []
  counted := Counted.begins cleared.length run
  digest short := (Chain.begin_digest beginsLocal not_false short.left run).trans
    (List.append_nil _).symm

theorem includes {extrinsic : Extrinsic} {outcome : DispatchOutcome} {before after : World}
    (included : Included extrinsic outcome before after)
    (assembles : Assembles start items before.store) :
    Assembles start (items ++ [(extrinsic, outcome.plain)]) after.store where
  gathers := by
    have few := assembles.counted.few
    rw [encodings_concat]
    refine included.gathers assembles.gathers ?_
    rw [encodings, List.length_map]
    omega
  counted := by
    rw [List.length_append]
    exact Counted.includes included assembles.counted
  digest short := by
    rw [told_concat, ← List.append_assoc] at short ⊢
    have known := assembles.digest short.left
    rw [← known] at short ⊢
    exact included.digest short

end Assembles

/-- A block that is finished has the number and the parent that it was begun with. Its digest is what
the engines had put in beforehand and what the calls have told; its roots are those of the extrinsics
that were not rejected, in their order, and of the state that it leaves, which keeps nothing of what
belonged to the block alone. All of this as far as lengths can be written. -/
theorem author_assembles (header found : Header Number) (candidates : List Extrinsic)
    (outcomes : List ApplyOutcome) (before after : World) (cleared : Cleared before.store)
    (writable : ∀ encoded ∈ encodings (passed candidates outcomes),
      encoded.length < Codec.lengthBound)
    (short : Digest.Short (header.digest.beforehand ++ told (passed candidates outcomes)))
    (run : author header candidates before = .ok (found, outcomes) after) :
    outcomes.length = candidates.length ∧
      found.number = header.number ∧ found.parentHash = header.parentHash ∧
      found.digest = header.digest.beforehand ++ told (passed candidates outcomes) ∧
      found.extrinsicsRoot = orderedRoot (encodings (passed candidates outcomes)) ∧
      found.stateRoot = after.store.root ∧
      Cleared after.store ∧ after.store.get? Timestamp.isSet.key = none := by
  obtain ⟨begun, applied, begins, applies, finishes⟩ := author_eq_ok run
  have assembles : Assembles header.digest.beforehand (passed candidates outcomes) applied.store :=
    applyEach_keeps (Assembles header.digest.beforehand) (fun _ _ _ => Assembles.seen)
      (fun _ _ _ _ _ => Assembles.includes) applies (Assembles.begins cleared begins)
  have few := assembles.counted.few
  have placed : Chain.Placed header.number header.parentHash applied.store :=
    (Chain.begin_places blocksLocal begins).1.spared blocksLocal fun key outside =>
      applyEach_spares (fun written => outside (written_among_block written)) applies
  rw [Chain.finish_run blocksLocal placed] at finishes
  obtain ⟨number, parent⟩ := Chain.sealing_places blocksLocal placed finishes
  have digest : found.digest = Item.digest.get applied.store :=
    Chain.sealing_digest sealingEnds (holdsBlock (by decide)) (not_under_head .digest (by decide))
      finishes
  have ends : chain.EndsLocal (Under [.blockWeight, .nextMultiplier, .isSet]) :=
    endsLocal (under_head .blockWeight (by decide)) (under_head .nextMultiplier (by decide))
      (under_head .isSet (by decide))
  have room : (encodings (passed candidates outcomes)).length < 4294967296 := by
    rw [encodings, List.length_map]
    omega
  obtain ⟨forms, state, left⟩ := Chain.sealing_collects ends
    (fun key under => under.apart (by decide)) assembles.gathers writable room finishes
  exact ⟨applyEach_length applies, number, parent, digest.trans (assembles.digest short), forms,
    state, left, (sealing_time finishes).2.1⟩

/-- A block with three extrinsics out of four candidates: the time, a transaction, and an upgrade that
was authorized, of which the digest tells. The transaction with a nonce that is too high is rejected.
The signatures are those by the neutral point of the curve, which prove any message. -/
theorem author_assembles_upgrade :
    ∃ (header found : Header Number) (candidates : List Extrinsic) (outcomes : List ApplyOutcome)
      (before after : World),
      (Cleared before.store ∧
        (∀ encoded ∈ encodings (passed candidates outcomes), encoded.length < Codec.lengthBound) ∧
        Digest.Short (header.digest.beforehand ++ told (passed candidates outcomes)) ∧
        author header candidates before = .ok (found, outcomes) after) ∧
      candidates.length = 4 ∧ (passed candidates outcomes).length = 3 ∧
      found.digest = [.preRuntime (.zero 4) [7], .environmentUpdated] ∧
      found.extrinsicsRoot = orderedRoot (encodings (passed candidates outcomes)) ∧
      Cleared after.store := by
  let who : AccountId := ⟨1 :: List.replicate 31 0, rfl⟩
  let proof : Octets 64 := ⟨1 :: List.replicate 63 0, rfl⟩
  let remark (nonce : Number) : Extrinsic :=
    ⟨some ⟨.id who, proof, ⟨.immortal, nonce, 0⟩⟩, .system (.remark [])⟩
  let header : Header Number :=
    { Header.blank 1 with digest := [.seal (.zero 4) [], .preRuntime (.zero 4) [7]] }
  let candidates : List Extrinsic :=
    [⟨none, .timestamp (.set 1000)⟩, remark 3, remark 0, ⟨none, .system (.applyUpgrade [9])⟩]
  let endowed := Action.ending (rules.endow [(who, 1000000000000000)]) ⟨.empty, []⟩
  let before : World :=
    ⟨Item.authorizedUpgrade.put (blake256 [9]) (rules.writeGenesis endowed.store), []⟩
  let outcomes : List ApplyOutcome :=
    [.ok (.ok ()), .error (.invalid .future), .ok (.ok ()), .ok (.ok ())]
  have answered : (Action.answer (author header candidates) before).map (·.2) = .ok outcomes := by
    decide +kernel
  have cleared : Cleared before.store :=
    ⟨Store.bare_of_keys (by decide +kernel), by decide +kernel, by decide +kernel, by decide +kernel,
      by decide +kernel⟩
  have writable : ∀ encoded ∈ encodings (passed candidates outcomes),
      encoded.length < Codec.lengthBound := by decide +kernel
  have telling : header.digest.beforehand ++ told (passed candidates outcomes) =
      [.preRuntime (.zero 4) [7], .environmentUpdated] := by decide +kernel
  have short : Digest.Short (header.digest.beforehand ++ told (passed candidates outcomes)) := by
    rw [telling]
    refine ⟨by decide, ?_⟩
    simp [DigestItem.Short, Codec.lengthBound]
  obtain ⟨sealed, run⟩ := author_of_outcomes answered
  obtain ⟨_, _, _, digest, roots, _, left, _⟩ := author_assembles header sealed candidates
    outcomes before _ cleared writable short run
  exact ⟨header, sealed, candidates, outcomes, before, _, ⟨cleared, writable, short, run⟩, rfl,
    rfl, digest.trans telling, roots, left⟩

end StateTransition.Testnet
