import StateTransition.Proofs.Account.Issuance
import StateTransition.Proofs.Testnet.Rejection
import StateTransition.Proofs.Transaction.Charge

set_option autoImplicit false

/-! Extrinsics that are included. Before and after its call an extrinsic writes what belongs to its
bookkeeping, and for its signer the books; all else that it does is done by its call. -/

namespace StateTransition.Testnet

open Item (Under under_head under_row)

/-- The keys of the bookkeeping of an extrinsic: its form, its place in the block, the log and the
room it takes, and the books on its signer. -/
inductive Bookkeeping (place : UInt32) : Option AccountId → Bytes → Prop
  | data (signer : Option AccountId) :
      Bookkeeping place signer (Item.extrinsicData.row place).key
  | index (signer : Option AccountId) : Bookkeeping place signer Item.extrinsicIndex.key
  | phase (signer : Option AccountId) : Bookkeeping place signer Item.phase.key
  | events (signer : Option AccountId) : Bookkeeping place signer Item.eventsKey
  | eventCount (signer : Option AccountId) : Bookkeeping place signer Item.eventCount.key
  | weight (signer : Option AccountId) : Bookkeeping place signer Item.blockWeight.key
  | length (signer : Option AccountId) : Bookkeeping place signer Item.extrinsicsLength.key
  | issuance (who : AccountId) : Bookkeeping place (some who) Item.totalIssuance.key
  | record (who : AccountId) : Bookkeeping place (some who) (rules.accountSlot who).key

namespace Bookkeeping

variable {place : UInt32} {signer : Option AccountId}

def noted : List Item.Name :=
  [.extrinsicData, .extrinsicIndex, .phase, .events, .eventCount, .blockWeight, .extrinsicsLength]

def names : List Item.Name :=
  [.extrinsicData, .extrinsicIndex, .phase, .events, .eventCount, .blockWeight, .extrinsicsLength,
    .totalIssuance, .account]

private theorem under_of_noted {key : Bytes} {names : List Item.Name}
    (notes : ∀ name ∈ noted, name ∈ names)
    (books : ∀ who, signer = some who → Item.Name.totalIssuance ∈ names ∧ .account ∈ names)
    (kept : Bookkeeping place signer key) : Under names key := by
  cases kept with
  | data => exact under_row .extrinsicData (notes _ (by decide)) rfl place
  | index => exact under_head .extrinsicIndex (notes _ (by decide))
  | phase => exact under_head .phase (notes _ (by decide))
  | events => exact under_head .events (notes _ (by decide))
  | eventCount => exact under_head .eventCount (notes _ (by decide))
  | weight => exact under_head .blockWeight (notes _ (by decide))
  | length => exact under_head .extrinsicsLength (notes _ (by decide))
  | issuance who => exact under_head .totalIssuance (books who rfl).1
  | record who => exact under_row .account (books who rfl).2 rfl who

theorem under {key : Bytes} (kept : Bookkeeping place signer key) : Under names key :=
  kept.under_of_noted (by decide) fun _ _ => ⟨by decide, by decide⟩

theorem under_unsigned {key : Bytes} (kept : Bookkeeping place none key) : Under noted key :=
  kept.under_of_noted (fun _ member => member) fun _ impossible => by cases impossible

theorem apart {name : Item.Name} (foreign : name ∉ names) :
    ¬Bookkeeping place signer name.head :=
  fun kept => Item.not_under_head name foreign kept.under

theorem level_apart : ¬Bookkeeping place signer Layer.levelKey :=
  apart (by decide : Item.Name.level ∉ names)

private theorem multiplier_apart : ¬Bookkeeping place signer Item.nextMultiplier.key :=
  apart (by decide : Item.Name.nextMultiplier ∉ names)

theorem holdsLog : HoldsLog (Bookkeeping place signer) := ⟨events signer, eventCount signer⟩

theorem holdsRoom : HoldsRoom (Bookkeeping place signer) := ⟨weight signer, length signer⟩

theorem holdsBooks (who : AccountId) : rules.HoldsBooks who (Bookkeeping place (some who)) where
  record := record who
  issuance := issuance who
  log := holdsLog
  created := Action.Local.pure ()
  killed := Action.Local.pure ()

end Bookkeeping

/-! ### From outside -/

/-- The account at the address that an extrinsic was signed with. -/
def signer? (extrinsic : Extrinsic) : Option AccountId :=
  extrinsic.signature.bind fun signature => signature.place.resolve?

theorem signer?_of_passes {extrinsic : Extrinsic} {store : Store}
    {checked : CheckedExtrinsic AccountId Number Call}
    (passes : form.check extrinsic store = .ok (.ok checked)) :
    checked.signer.map (·.1) = signer? extrinsic := by
  obtain ⟨_, ⟨unsigned, none⟩ | ⟨signature, who, signs, resolves, some⟩⟩ :=
    ExtrinsicForm.verified_passes passes
  · rw [none, signer?, unsigned]
    rfl
  · rw [some, signer?, signs]
    exact resolves.symm

theorem layered_get? (world : World) (key : Bytes) :
    world.layered.store.get? key = world.store.get? key :=
  Store.seen_get? key _ _ (Store.visible_openLayer world.store)

/-! ### The stages of an included extrinsic -/

section

variable {checked : CheckedExtrinsic AccountId Number Call} {info : DispatchInfo} {length : Nat}
variable {before after : World} {place : UInt32} {signer : Option AccountId}

theorem prepare_charges {payment : Option (Payment AccountId)}
    (run : (chain.prepare checked info length).run before = .ok (.ok payment) after) :
    checked.signer = none ∧ payment = none ∧
        (Attempt.update (rules.takeRoom info (UInt32.ofNat length))).run before =
          .ok (.ok ()) after ∨
      ∃ who terms, checked.signer = some (who, terms) ∧
        (rules.prepareSigned terms who info length Check.all).run before =
          .ok (.ok payment) after := by
  unfold Chain.prepare at run
  cases signs : checked.signer with
  | none =>
      rw [signs] at run
      obtain ⟨_, placed, places, admits⟩ := Attempt.bind_eq_ok run
      obtain ⟨_, admitted, looks, finishes⟩ := Attempt.bind_eq_ok admits
      obtain ⟨rfl, rfl⟩ := Attempt.pure_eq_ok finishes
      rw [Rules.prepareBare_eq] at places
      have looking : Action.look (admitUnsigned checked.call) placed = .ok (.ok _) after := looks
      rw [Action.look_run] at looking
      injection looking with _ unmoved
      subst unmoved
      exact Or.inl ⟨rfl, rfl, places⟩
  | some signer =>
      rw [signs] at run
      exact Or.inr ⟨signer.1, signer.2, rfl, run⟩

theorem prepare_spares {payment : Option (Payment AccountId)}
    (run : (chain.prepare checked info length).run before = .ok (.ok payment) after) {key : Bytes}
    (outside : ¬Bookkeeping place (checked.signer.map (·.1)) key) :
    after.store.get? key = before.store.get? key := by
  rcases prepare_charges run with ⟨_, _, takes⟩ | ⟨who, terms, signs, checks⟩
  · have isLocal : Attempt.Local (Bookkeeping place (checked.signer.map (·.1)))
        (Attempt.update (rules.takeRoom info (UInt32.ofNat length))) :=
      Rules.takeRoom_local Bookkeeping.holdsRoom info _
    exact Action.Local.spared isLocal takes outside
  · rw [signs] at outside
    have isLocal : Attempt.Local (Bookkeeping place (some who))
        (rules.prepareSigned terms who info length Check.all) :=
      Rules.prepareSigned_local Bookkeeping.holdsRoom (Bookkeeping.holdsBooks who) terms info
        length Check.all
    exact Action.Local.spared isLocal checks outside

def noted (encoded : Bytes) (world : World) : World :=
  { world with store := Environment.noteExtrinsic encoded world.store }

private theorem noted_get? (encoded : Bytes) (world : World) (key : Bytes)
    (different : key ≠ (Item.extrinsicData.row (Environment.extrinsicIndex world.store)).key) :
    (noted encoded world).store.get? key = world.store.get? key :=
  (Store.get?_put _ _ _ _).trans (if_neg different)

theorem noted_spares (encoded : Bytes) (world : World) {key : Bytes}
    (outside : ¬Under [.extrinsicData] key) :
    (noted encoded world).store.get? key = world.store.get? key := by
  apply noted_get?
  rintro rfl
  exact outside (under_row .extrinsicData (by decide) rfl _)

theorem noted_fee (encoded : Bytes) (world : World) (length : UInt32) (info : DispatchInfo)
    (tip : Balance) : rules.fee length info tip (noted encoded world).store =
      rules.fee length info tip world.store := by
  apply Rules.fee_congr
  exact noted_spares encoded world (Item.not_under_head .nextMultiplier (by decide))

theorem noted_same (encoded : Bytes) (world : World) :
    SameBooks world.store (noted encoded world).store := by
  have apart : ∀ name ∈ [Item.Name.account, .totalIssuance], name ∉ [Item.Name.extrinsicData] := by
    decide
  exact SameBooks.of_spares apart fun key outside => noted_spares encoded world outside

/-- What is written when the end of an extrinsic is noted. -/
def endingNames : List Item.Name := [.events, .eventCount, .extrinsicIndex, .phase]

theorem noteApplied_names (outcome : DispatchOutcome) (info : DispatchInfo) :
    Action.Local (Under endingNames) (rules.noteApplied outcome info) := by
  have notes : Action.Local (Under endingNames) (chain.rules.noteApplied outcome info) :=
    Chain.noteApplied_local (holdsLog (by decide)) (under_head .extrinsicIndex (by decide))
      (under_head .phase (by decide)) outcome info
  exact notes

theorem noteApplied_same {outcome : DispatchOutcome}
    (run : rules.noteApplied outcome info before = .ok () after) :
    SameBooks before.store after.store :=
  SameBooks.of_spares (by decide) fun _ outside => (noteApplied_names outcome info).spared run outside

/-- How an extrinsic is run whose call ends with an outcome. -/
structure Included (extrinsic : Extrinsic) (outcome : DispatchOutcome) (before after : World) where
  checked : CheckedExtrinsic AccountId Number Call
  applied : World
  passes : form.check extrinsic before.store = .ok (.ok checked)
  stages : chain.Applied checked (form.info extrinsic) (form.codec.encode extrinsic).length
    (noted (form.codec.encode extrinsic) before) applied outcome
  allowed : ¬(outcome.toOption.isNone = true ∧ (form.info extrinsic).kind = .mandatory)
  notes : rules.noteApplied outcome (form.info extrinsic) applied = .ok () after

theorem included_of_run {extrinsic : Extrinsic} {result : Except DispatchError Unit}
    (run : (chain.applyExtrinsic form extrinsic).run before = .ok (.ok result) after) :
    ∃ outcome, result = outcome.plain ∧ Nonempty (Included extrinsic outcome before after) := by
  obtain ⟨checked, outcome, applied, passes, applies, allowed, notes, plain⟩ :=
    Chain.applyExtrinsic_included run
  obtain ⟨stages⟩ := Chain.applied_of_run applies
  exact ⟨outcome, plain, ⟨⟨checked, applied, passes, stages, allowed, notes⟩⟩⟩

namespace Included

variable {extrinsic : Extrinsic} {outcome : DispatchOutcome}
variable (included : Included extrinsic outcome before after)

include included

theorem signed : included.checked.signer.map (·.1) = signer? extrinsic :=
  signer?_of_passes included.passes

/-- The signer of a checked extrinsic is the one at the address it was signed with, on the terms
that were signed. -/
theorem signer_eq {signature : Signature Place Ed25519.Signature Number}
    (signs : extrinsic.signature = some signature) :
    ∃ who, signature.place.resolve? = some who ∧
      included.checked.signer = some (who, signature.terms) := by
  obtain ⟨_, ⟨unsigned, _⟩ | ⟨other, who, same, resolves, signer⟩⟩ :=
    ExtrinsicForm.verified_passes included.passes
  · rw [unsigned] at signs
    cases signs
  · rw [signs] at same
    cases same
    exact ⟨who, resolves, signer⟩

theorem called : included.checked.call = extrinsic.call :=
  (ExtrinsicForm.verified_passes included.passes).1

theorem dispatched : dispatch extrinsic.call (.ofSigner (signer? extrinsic))
    included.stages.ready = .ok outcome included.stages.dispatched := by
  have dispatches := included.stages.dispatches
  rwa [included.called, included.signed] at dispatches

theorem readied {key : Bytes}
    (outside : ¬Bookkeeping (Environment.extrinsicIndex before.store) (signer? extrinsic) key) :
    included.stages.ready.store.get? key = before.store.get? key := by
  have different :
      key ≠ (Item.extrinsicData.row (Environment.extrinsicIndex before.store)).key := by
    rintro rfl
    exact outside (.data _)
  rw [← included.signed] at outside
  exact (prepare_spares included.stages.prepares outside).trans (noted_get? _ _ _ different)

theorem payer {paid : Payment AccountId} (pays : included.stages.payment = some paid) :
    signer? extrinsic = some paid.who := by
  rw [← included.signed]
  rcases prepare_charges included.stages.prepares with ⟨_, nothing, _⟩ | ⟨who, terms, signs, checks⟩
  · rw [nothing] at pays
    cases pays
  · obtain ⟨charged, _⟩ := Rules.prepareSigned_charged positive checks
    rw [charged] at pays
    cases pays
    rw [signs]
    rfl

/-- The multiplier stays the same up to the settling of an extrinsic, and so does its fee. -/
theorem dispatched_multiplier :
    included.stages.dispatched.store.get? Item.nextMultiplier.key =
      before.store.get? Item.nextMultiplier.key := by
  have calling : Action.Local (Under extrinsic.call.names) _ :=
    dispatch_names extrinsic.call (signer? extrinsic)
  have apart : ¬Under extrinsic.call.names Item.nextMultiplier.key :=
    Item.not_under_head .nextMultiplier (Call.not_names (by decide) _)
  rw [calling.spared included.dispatched apart, included.readied Bookkeeping.multiplier_apart]

theorem closed (place : UInt32) {key : Bytes}
    (outside : ¬Bookkeeping place (signer? extrinsic) key) :
    after.store.get? key = included.stages.dispatched.store.get? key := by
  have settles : Attempt.Local (Bookkeeping place (signer? extrinsic))
      (rules.settle included.stages.payment (form.info extrinsic) outcome.post
        (form.codec.encode extrinsic).length outcome.toOption.isNone Check.all) := by
    apply Rules.settle_local Bookkeeping.holdsRoom
    · intro paid pays
      rw [included.payer pays]
      exact Bookkeeping.holdsBooks paid.who
    · intro amount
      exact Action.Local.pure ()
  have notes : Action.Local (Bookkeeping place (signer? extrinsic))
      (chain.rules.noteApplied outcome (form.info extrinsic)) :=
    Chain.noteApplied_local Bookkeeping.holdsLog (.index _) (.phase _) _ _
  rw [notes.spared included.notes outside,
    Action.Local.spared settles included.stages.settles outside]

end Included

end

end StateTransition.Testnet
