import StateTransition.Proofs.Chain.Pool
import StateTransition.Proofs.Chain.Total
import StateTransition.Proofs.Testnet.Nonce

set_option autoImplicit false

/-! The pool of the test network predicts the next block. What the pool finds valid there, and does
not hold back for an earlier nonce, is included by a block that begins next; nothing else is. -/

namespace StateTransition.Testnet

/-! ### Nothing is trapped -/

theorem dispatch_total (signer : Option AccountId) {call : Call}
    (mild : call.info.kind ≠ .mandatory) : Action.Total (dispatch call (.ofSigner signer)) := by
  cases call with
  | system call => exact StateTransition.Call.layered_total (Rules.runSystemCall_total signer call)
  | timestamp call => exact absurd rfl mild
  | balances call =>
      exact StateTransition.Call.layered_total (Rules.runBalanceCall_total safeLives signer call)

theorem begin_total (header : Header Number) : Action.Total (chain.begin header) :=
  Chain.begin_total (List.forall_mem_nil _)
    (List.forall_mem_singleton.mpr fun _ => Action.Total.pure _) header

/-! ### Room in a block that has begun -/

def beginningWeight : ConsumedWeight := ConsumedWeight.zero.add ⟨562092000, 0⟩ .mandatory

theorem begin_weighs {header : Header Number} {before begun : World}
    (begins : chain.begin header before = .ok () begun) :
    Item.blockWeight.get begun.store = beginningWeight := by
  obtain ⟨upgradeWeight, upgraded, hookWeight, hooked, upgrades, hooks, weighs⟩ :=
    Chain.begin_weighs beginsLocal not_false begins
  have noUpgrades : upgradeWeight = .zero := by
    have looked := Action.look_bind upgrades
    split at looked
    · cases looked
      rfl
    · cases looked
      rfl
  cases hooks
  rw [weighs, noUpgrades]
  rfl

/-- The heaviest extrinsic of a class that has a limit fits behind the beginning of a block. -/
theorem heaviest_fits {kind : DispatchClass} (mild : kind ≠ .mandatory) :
    ∃ heaviest total, (rules.weights.get kind).maxExtrinsic = some heaviest ∧
      (rules.weights.get kind).maxTotal = some total ∧
      ∀ dimension, (beginningWeight.get kind).along dimension + heaviest.along dimension +
          (rules.weights.get kind).baseExtrinsic.along dimension ≤ total.along dimension ∧
        beginningWeight.total.along dimension + heaviest.along dimension +
          (rules.weights.get kind).baseExtrinsic.along dimension ≤
            rules.weights.maxBlock.along dimension := by
  cases kind with
  | normal => exact ⟨_, _, rfl, rfl, fun dimension => by cases dimension <;> decide +kernel⟩
  | operational => exact ⟨_, _, rfl, rfl, fun dimension => by cases dimension <;> decide +kernel⟩
  | mandatory => exact absurd rfl mild

private theorem consumedWith_beginning {info : DispatchInfo} (mild : info.kind ≠ .mandatory)
    (single : rules.checkExtrinsicWeight info = .ok ()) :
    ∃ weight, rules.weights.consumedWith beginningWeight info = .ok weight := by
  obtain ⟨heaviest, total, most, limits, fits⟩ := heaviest_fits mild
  -- The hooks leave room for the heaviest of its class, so its own limit is all that counts.
  have light : info.weight.Within heaviest := by
    apply not_exceeds
    intro heavy
    unfold Rules.checkExtrinsicWeight at single
    rw [most, if_pos heavy] at single
    cases single
  exact BlockWeights.consumedWith_of_fits limits light (fun dimension => (fits dimension).1)
    fun dimension => (fits dimension).2

/-! ### The checks -/

section

variable {checked : CheckedExtrinsic AccountId Number Call} {info : DispatchInfo} {length : Nat}
variable {source : TransactionSource} {judged : Store} {before : World}
variable {who : AccountId} {terms : Terms Number}

private theorem validate_signed (signs : checked.signer = some (who, terms)) :
    chain.validate source checked info length =
      rules.validateSigned terms who info length .neutral Check.all := by
  unfold Chain.validate
  rw [signs]
  rfl

private theorem prepare_signed (signs : checked.signer = some (who, terms)) :
    chain.prepare checked info length =
      rules.prepareSigned terms who info length Check.all := by
  unfold Chain.prepare
  rw [signs]
  rfl

/-- As the first of a block, a transaction passes its checks exactly if the pool finds it valid and
waiting for nothing. -/
theorem prepare_iff_valid (alike : JudgedAlike judged before.store)
    (first : Item.blockWeight.get before.store = beginningWeight) (mild : info.kind ≠ .mandatory)
    (signs : checked.signer = some (who, terms))
    (counts : (rules.accountInfo who before.store).nonce.toNat < 4294967295) :
    (∃ payment ready, (chain.prepare checked info length).run before =
        .ok (.ok payment) ready) ↔
      ∃ valid, chain.validate source checked info length judged = .ok (.ok valid) ∧
        valid.requires = [] := by
  rw [validate_signed signs, prepare_signed signs]
  have records := alike.accountInfo rules who
  have approved : (∀ check ∈ Check.all, rules.Approves terms who info length judged check) ↔
      ∀ check ∈ Check.all, rules.Approves terms who info length before.store check :=
    forall₂_congr fun check _ => alike.approves check
  constructor
  · rintro ⟨payment, ready, run⟩
    obtain ⟨opens, provided, same, next, room, weight, _, found, pays, _, _⟩ :=
      (Rules.prepareSigned_all_iff positive rfl).mp run
    obtain ⟨lengths, single, _⟩ := Rules.roomWith_iff.mp ⟨room, weight, found⟩
    have current := Nat.le_of_eq (congrArg Word.toNat same.symm)
    obtain ⟨valid, validated⟩ := (Rules.validateSigned_iff .neutral judged).mpr
      (approved.mpr ((Rules.approves_all_iff rfl).mpr
        ⟨opens, provided, current, lengths, single, pays⟩))
    have unused : Word.toNat terms.nonce ≤ Word.toNat (rules.accountInfo who judged).nonce :=
      Nat.le_of_eq (by rw [records, same])
    exact ⟨valid, validated, (Rules.requires_nil_iff validated).mpr unused⟩
  · rintro ⟨valid, validated, waits⟩
    have unused := (Rules.requires_nil_iff validated).mp waits
    obtain ⟨opens, provided, current, lengths, single, pays⟩ := (Rules.approves_all_iff rfl).mp
      (approved.mp ((Rules.validateSigned_iff .neutral judged).mp ⟨valid, validated⟩))
    rw [records] at unused
    -- The pool lets a nonce run ahead; one that waits for nothing does not, so it is the next one.
    have same : terms.nonce = (rules.accountInfo who before.store).nonce :=
      Word.toNat_injective _ _ (Nat.le_antisymm unused current)
    have weights := consumedWith_beginning mild single
    rw [← first] at weights
    obtain ⟨room, weight, found⟩ := Rules.roomWith_iff.mpr ⟨lengths, single, weights⟩
    rw [← same] at counts
    have added : Word.checkedAdd? terms.nonce Word.one = some (terms.nonce + 1) :=
      Word.checkedAdd?_one (Nat.succ_lt_succ counts)
    exact ⟨_, _, (Rules.prepareSigned_all_iff positive rfl).mpr
      ⟨opens, provided, same, _, room, weight, added, found, pays, rfl, rfl⟩⟩

private theorem prepare_future (alike : JudgedAlike judged before.store)
    (signs : checked.signer = some (who, terms)) {valid : ValidTransaction}
    (validated : chain.validate source checked info length judged = .ok (.ok valid))
    (waits : valid.requires ≠ []) :
    (chain.prepare checked info length).run before =
      .ok (.error (.invalid .future)) before := by
  rw [validate_signed signs] at validated
  have approved := (Rules.validateSigned_iff .neutral judged).mp ⟨valid, validated⟩
  obtain ⟨opens, provided, _⟩ := (Rules.approves_all_iff rfl).mp fun check member =>
    (alike.approves check).mp (approved check member)
  have ahead : Word.toNat (rules.accountInfo who judged).nonce < Word.toNat terms.nonce := by
    apply Nat.lt_of_not_le
    intro current
    exact waits ((Rules.requires_nil_iff validated).mpr current)
  rw [alike.accountInfo] at ahead
  rw [prepare_signed signs]
  exact Rules.prepareSigned_future opens provided ahead

end

/-! ### The next block -/

section

variable {extrinsic : Extrinsic} {header : Header Number} {source : TransactionSource}
variable {world begun : World}

private theorem saturatingAdd_one {number : Number} (bounded : number.toNat < 4294967295) :
    Word.saturatingAdd number Word.one = number + 1 := by
  have fits : number.toNat + 1 < 4294967296 := Nat.succ_lt_succ bounded
  exact Option.some.inj ((Word.checkedAdd?_of_fits fits).symm.trans (Word.checkedAdd?_one fits))

private theorem noted_alike (encoded : Bytes) (before : World) :
    JudgedAlike before.store (noted encoded before).store := by
  have apart : ∀ name ∈ judgedNames, name ∉ [Item.Name.extrinsicData] := by decide
  exact JudgedAlike.of_spares apart fun key outside => (noted_spares encoded before outside).symm

/-- A block that follows on the current one has just begun. -/
structure Opens (header : Header Number) (world begun : World) : Prop where
  number : header.number = Word.saturatingAdd (Environment.number world.store) Word.one
  begins : chain.begin header world = .ok () begun

namespace Opens

variable (opens : Opens header world begun)

include opens

theorem alike : JudgedAlike (Chain.judging Number header.parentHash world) begun.layered.store := by
  intro key judged
  exact (Chain.judging_alike beginsLocal (fun _ _ => not_false) opens.number opens.begins key
    judged).trans (layered_get? begun key).symm

private theorem alike_noted (encoded : Bytes) :
    JudgedAlike (Chain.judging Number header.parentHash world)
      (noted encoded begun.layered).store :=
  opens.alike.trans (noted_alike encoded begun.layered)

theorem checks : form.check extrinsic (Chain.judging Number header.parentHash world) =
    form.check extrinsic begun.layered.store :=
  opens.alike.verified _ _ _ extrinsic

theorem first (encoded : Bytes) :
    Item.blockWeight.get (noted encoded begun.layered).store = beginningWeight := by
  have spared : (noted encoded begun.layered).store.get? Item.blockWeight.key =
      begun.store.get? Item.blockWeight.key :=
    (noted_spares encoded begun.layered (Item.not_under_head .blockWeight (by decide))).trans
      (layered_get? begun _)
  rw [Slot.get_congr Item.blockWeight spared]
  exact begin_weighs opens.begins

theorem accountInfo (encoded : Bytes) (who : AccountId) :
    rules.accountInfo who (noted encoded begun.layered).store =
      rules.accountInfo who world.store := by
  have begun_same := (begin_same opens.begins).accountInfo rules who
  have layered_same : SameBooks begun.store begun.layered.store := fun key _ => layered_get? begun key
  exact ((noted_same encoded begun.layered).accountInfo rules who).trans
    ((layered_same.accountInfo rules who).trans begun_same)

end Opens

private theorem signer_of_passes {store : Store} {checked : CheckedExtrinsic AccountId Number Call}
    (signed : extrinsic.signature.isSome = true)
    (passes : form.check extrinsic store = .ok (.ok checked)) :
    ∃ who terms, checked.signer = some (who, terms) ∧ signer? extrinsic = some who := by
  obtain ⟨_, ⟨unsigned, _⟩ | ⟨signature, who, signs, resolves, signer⟩⟩ :=
    ExtrinsicForm.verified_passes passes
  · rw [unsigned] at signed
    cases signed
  · refine ⟨who, signature.terms, signer, ?_⟩
    rw [← signer?_of_passes passes, signer]
    rfl

private theorem applyExtrinsic_included_iff :
    (∃ result after, Entry.applyExtrinsic extrinsic begun = .ok (.ok result) after) ↔
      ∃ result after, (chain.applyExtrinsic form extrinsic).run begun.layered =
        .ok (.ok result) after := by
  constructor
  · rintro ⟨result, after, run⟩
    obtain ⟨ended, inside, _⟩ := Entry.included_run run
    exact ⟨result, ended, inside⟩
  · rintro ⟨result, ended, inside⟩
    rw [Entry.applyExtrinsic_run, inside]
    exact ⟨result, _, rfl⟩

theorem included_iff_prepared (mild : (form.info extrinsic).kind ≠ .mandatory) :
    (∃ result after, Entry.applyExtrinsic extrinsic begun = .ok (.ok result) after) ↔
      ∃ checked payment ready, form.check extrinsic begun.layered.store = .ok (.ok checked) ∧
        (chain.prepare checked (form.info extrinsic) (form.codec.encode extrinsic).length).run
          (noted (form.codec.encode extrinsic) begun.layered) = .ok (.ok payment) ready := by
  rw [applyExtrinsic_included_iff]
  apply Chain.applyExtrinsic_iff safeLives (fun _ => Action.Total.pure ()) mild
  intro checked passes signer
  have called : checked.call = extrinsic.call := (ExtrinsicForm.verified_passes passes).1
  rw [called]
  exact dispatch_total signer mild

variable (outside : world.store.get? Layer.levelKey = none)
variable (mild : (form.info extrinsic).kind ≠ .mandatory)
variable (signed : extrinsic.signature.isSome = true)

include outside mild signed

theorem valid_iff_included (opens : Opens header world begun)
    (counts : ∀ who, signer? extrinsic = some who →
      (rules.accountInfo who world.store).nonce.toNat < 4294967295) :
    (∃ valid after, chain.validateTransaction form source extrinsic header.parentHash world =
        .ok (.ok valid) after ∧ valid.requires = []) ↔
      ∃ result after, Entry.applyExtrinsic extrinsic begun = .ok (.ok result) after := by
  have prepares : ∀ checked, form.check extrinsic begun.layered.store = .ok (.ok checked) →
      ((∃ payment ready, (chain.prepare checked (form.info extrinsic)
          (form.codec.encode extrinsic).length).run
            (noted (form.codec.encode extrinsic) begun.layered) = .ok (.ok payment) ready) ↔
        ∃ valid, chain.validate source checked (form.info extrinsic)
          (form.codec.encode extrinsic).length
            (Chain.judging Number header.parentHash world) = .ok (.ok valid) ∧
              valid.requires = []) := by
    intro checked passes
    obtain ⟨who, terms, signs, signer⟩ := signer_of_passes signed passes
    apply prepare_iff_valid (opens.alike_noted _) (opens.first _) mild signs
    rw [opens.accountInfo]
    exact counts who signer
  rw [included_iff_prepared mild]
  constructor
  · rintro ⟨valid, after, run, waits⟩
    obtain ⟨checked, passes, validated⟩ :=
      (Chain.validateTransaction_iff outside mild).mp ⟨after, run⟩
    rw [opens.checks] at passes
    obtain ⟨payment, ready, prepared⟩ := (prepares checked passes).mpr ⟨valid, validated, waits⟩
    exact ⟨checked, payment, ready, passes, prepared⟩
  · rintro ⟨checked, payment, ready, passes, prepared⟩
    obtain ⟨valid, validated, waits⟩ := (prepares checked passes).mp ⟨payment, ready, prepared⟩
    rw [← opens.checks] at passes
    obtain ⟨after, run⟩ :=
      (Chain.validateTransaction_iff outside mild).mpr ⟨checked, passes, validated⟩
    exact ⟨valid, after, run, waits⟩

private theorem rejected_of_waiting (opens : Opens header world begun) {valid : ValidTransaction}
    {after : World}
    (run : chain.validateTransaction form source extrinsic header.parentHash world =
      .ok (.ok valid) after)
    (waits : valid.requires ≠ []) :
    ∃ rejected, Entry.applyExtrinsic extrinsic begun =
      .ok (.error (.invalid .future)) rejected := by
  obtain ⟨checked, passes, validated⟩ :=
    (Chain.validateTransaction_iff outside mild).mp ⟨after, run⟩
  rw [opens.checks] at passes
  obtain ⟨who, terms, signs, _⟩ := signer_of_passes signed passes
  have refused := prepare_future (opens.alike_noted (form.codec.encode extrinsic)) signs validated
    waits
  rw [Entry.applyExtrinsic_run, Chain.applyExtrinsic_refused passes refused]
  exact ⟨_, rfl⟩

end

/-- The pool predicts the next block. An extrinsic that somebody has signed is valid and waits for
nothing exactly if it is included where a block begins that follows on the current one; one that waits
is valid too early, and rejected for that alone. -/
theorem validateTransaction_predicts (source : TransactionSource) (extrinsic : Extrinsic)
    (header : Header Number) (world : World)
    (outside : world.store.get? Layer.levelKey = none)
    (bounded : (Environment.number world.store : Number).toNat < 4294967295)
    (counts : ∀ who, signer? extrinsic = some who →
      (rules.accountInfo who world.store).nonce.toNat < 4294967295)
    (signed : extrinsic.signature.isSome = true)
    (mild : (form.info extrinsic).kind ≠ .mandatory)
    (next : header.number = Environment.number world.store + 1) :
    ∃ begun, chain.begin header world = .ok () begun ∧
      ((∃ valid after, chain.validateTransaction form source extrinsic header.parentHash world =
          .ok (.ok valid) after ∧ valid.requires = []) ↔
        ∃ result after, Entry.applyExtrinsic extrinsic begun = .ok (.ok result) after) ∧
      ∀ valid after, chain.validateTransaction form source extrinsic header.parentHash world =
          .ok (.ok valid) after → valid.requires ≠ [] →
        ∃ rejected, Entry.applyExtrinsic extrinsic begun =
            .ok (.error (.invalid .future)) rejected ∧ rejected.store = begun.store := by
  obtain ⟨_, begun, begins⟩ := begin_total header world
  have opens : Opens header world begun := ⟨by rw [next, saturatingAdd_one bounded], begins⟩
  refine ⟨begun, begins, valid_iff_included outside mild signed opens counts, ?_⟩
  intro valid after run waits
  obtain ⟨rejected, rejects⟩ := rejected_of_waiting outside mild signed opens run waits
  exact ⟨rejected, rejects, Entry.store_of_rejected rejects⟩

/-- Two remarks of an account that has sent three: the fourth is included, the sixth comes too early.
The signatures are ones by the neutral point of the curve. -/
theorem validateTransaction_predicts_fourth :
    ∃ (header : Header Number) (world begun : World) (fourth sixth : Extrinsic),
      world.store.get? Layer.levelKey = none ∧
      header.number = Environment.number world.store + 1 ∧
      chain.begin header world = .ok () begun ∧
      (∃ valid after, chain.validateTransaction form .external fourth header.parentHash world =
        .ok (.ok valid) after ∧ valid.requires = []) ∧
      (∃ result after, Entry.applyExtrinsic fourth begun = .ok (.ok result) after) ∧
      (∃ valid after, chain.validateTransaction form .external sixth header.parentHash world =
        .ok (.ok valid) after ∧ valid.requires ≠ []) ∧
      ∃ rejected, Entry.applyExtrinsic sixth begun = .ok (.error (.invalid .future)) rejected ∧
        rejected.store = begun.store := by
  let who : AccountId := ⟨1 :: List.replicate 31 0, rfl⟩
  let proof : Octets 64 := ⟨1 :: List.replicate 63 0, rfl⟩
  let remark (nonce : Number) : Extrinsic :=
    ⟨some ⟨.id who, proof, ⟨.immortal, nonce, 0⟩⟩, .system (.remark [])⟩
  let header : Header Number := { Header.blank 2 with parentHash := .filled 32 9 }
  let world : World := ⟨(rules.accountSlot who).put ⟨3, 0, 1, 0, 1000000000000⟩
    (Item.number.put (1 : Number)
      ((Item.blockHash.row (0 : Number)).put Rules.genesisHash .empty)), []⟩
  have outside : world.store.get? Layer.levelKey = none := by decide +kernel
  have next : header.number = Environment.number world.store + 1 := by decide +kernel
  have counts : ∀ nonce signer, signer? (remark nonce) = some signer →
      (rules.accountInfo signer world.store).nonce.toNat < 4294967295 := by
    intro nonce signer signs
    cases signs
    decide +kernel
  have predicts (nonce : Number) := validateTransaction_predicts .external (remark nonce) header
    world outside (by decide +kernel) (counts nonce) rfl (by intro same; cases same) next
  have judged : Action.answer (chain.validateTransaction form .external (remark 3)
      header.parentHash) world =
        .ok (.ok ⟨37095, [], [rules.nonceTag who 3], 18446744073709551613, true⟩) ∧
      Action.answer (chain.validateTransaction form .external (remark 5) header.parentHash) world =
        .ok (.ok ⟨37095, [rules.nonceTag who 4], [rules.nonceTag who 5], 18446744073709551613,
          true⟩) := by decide +kernel
  have fourthRuns := Action.run_of_answer_ok judged.1
  have sixthRuns := Action.run_of_answer_ok judged.2
  obtain ⟨begun, begins, included, _⟩ := predicts 3
  obtain ⟨again, beginsAgain, _, rejected⟩ := predicts 5
  rw [begins] at beginsAgain
  cases beginsAgain
  exact ⟨header, world, begun, remark 3, remark 5, outside, next, begins, ⟨_, _, fourthRuns, rfl⟩,
    included.mp ⟨_, _, fourthRuns, rfl⟩, ⟨_, _, sixthRuns, List.cons_ne_nil _ _⟩,
    rejected _ _ sixthRuns (List.cons_ne_nil _ _)⟩

end StateTransition.Testnet
