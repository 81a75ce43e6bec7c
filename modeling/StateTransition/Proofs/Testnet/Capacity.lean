import StateTransition.Proofs.Limits.Ledger
import StateTransition.Proofs.Testnet.Authored
import StateTransition.Proofs.Testnet.Time

set_option autoImplicit false

/-! How many extrinsics a block has room for. Each that is included weighs at least the base weight of
its class, and the classes of normal and of operational calls are limited. Mandatory extrinsics are
not, but the only mandatory call tells the time, which is told once. -/

namespace StateTransition.Testnet

open Item (Under under_head under_row not_under_head)

/-! ### The weight of an extrinsic -/

/-- What is written for fees is apart from the ledger of weights. -/
def feeNames : List Item.Name := [.account, .totalIssuance, .events, .eventCount]

private theorem weight_not_fee : ¬Under feeNames Item.blockWeight.key :=
  not_under_head .blockWeight (by decide)

section

variable {checked : CheckedExtrinsic AccountId Number Call} {info : DispatchInfo} {length : Nat}
variable {payment : Option (Payment AccountId)} {before after : World}

private theorem takeRoom_admits {room : UInt32}
    (run : (Attempt.update (rules.takeRoom info room)).run before = .ok (.ok ()) after) :
    rules.weights.Admits info (Item.blockWeight.get before.store)
      (Item.blockWeight.get after.store) := by
  have updates : Action.update (rules.takeRoom info room) before = .ok (.ok ()) after := run
  rw [Action.update_run] at updates
  injection updates with answer ended
  subst ended
  exact (Rules.takeRoom_ok (Prod.ext answer rfl)).1

private theorem prepare_admits
    (run : (chain.prepare checked info length).run before = .ok (.ok payment) after) :
    rules.weights.Admits info (Item.blockWeight.get before.store)
      (Item.blockWeight.get after.store) := by
  rcases prepare_charges run with ⟨_, _, takes⟩ | ⟨who, terms, _, checks⟩
  · exact takeRoom_admits takes
  · obtain ⟨counted, placed, charge, counts, places, pays, _⟩ := Rules.prepareSigned_stages checks
    have counting : Attempt.Local (Under feeNames) (rules.takeNonce who terms.nonce) :=
      Rules.takeNonce_local (under_row .account (by decide) rfl who) _
    have paying : Attempt.Local (Under feeNames) (rules.takeFee who terms.tip info length) :=
      Rules.takeFee_local (holdsBooks (by decide) who) _ _ _
    rw [Slot.get_congr Item.blockWeight (Action.Local.spared paying pays weight_not_fee),
      ← Slot.get_congr Item.blockWeight (Action.Local.spared counting counts weight_not_fee)]
    exact takeRoom_admits places

private theorem settle_weighs {post : PostInfo} {failed : Bool}
    (run : (rules.settle payment info post length failed Check.all).run before =
      .ok (.ok ()) after) :
    Item.blockWeight.get after.store = Item.blockWeight.get (returnRoom info post before.store) := by
  rcases Rules.settle_returns run with ⟨_, rfl⟩ | ⟨charge, _, settles⟩
  · rfl
  · have settling : Action.Local (Under feeNames) (rules.settlePayment charge info post length) :=
      Rules.settlePayment_local (holdsBooks (by decide) charge.who) (fun _ => Action.Local.pure ())
        _ _ _
    exact Slot.get_congr _ (settling.spared settles weight_not_fee)

end

def baseTime : Nat := extrinsicBaseWeight.refTime.toNat

private theorem baseTime_along (kind : DispatchClass) :
    (rules.weights.get kind).baseExtrinsic.along .time = baseTime := by
  cases kind <;> decide +kernel

/-- The most that the extrinsics of a class weigh, unless they are mandatory. -/
def classTime : Nat := 2000000000000

private theorem maxTotal_along : ∀ kind ∈ DispatchClass.nonMandatory,
    ∃ total, (rules.weights.get kind).maxTotal = some total ∧ total.along .time ≤ classTime := by
  refine List.forall_mem_cons.mpr ⟨?_, List.forall_mem_singleton.mpr ?_⟩
  · exact ⟨⟨1500000000000, _⟩, rfl, by decide⟩
  · exact ⟨⟨2000000000000, _⟩, rfl, by decide⟩

def timeOf (store : Store) (kind : DispatchClass) : Nat :=
  ((Item.blockWeight.get store).get kind).along .time

namespace Included

variable {extrinsic : Extrinsic} {outcome : DispatchOutcome} {before after : World}
variable (included : Included extrinsic outcome before after)

include included

theorem weighs : ∃ asked,
    rules.weights.Admits (form.info extrinsic) (Item.blockWeight.get before.store)
      (Item.blockWeight.get asked) ∧
    Item.blockWeight.get after.store =
      Item.blockWeight.get (returnRoom (form.info extrinsic) outcome.post asked) := by
  have noted : Item.blockWeight.get (noted (form.codec.encode extrinsic) before).store =
      Item.blockWeight.get before.store :=
    Slot.get_congr _ (noted_spares _ _ (not_under_head .blockWeight (by decide)))
  have asks := prepare_admits included.stages.prepares
  rw [noted] at asks
  have called : Item.blockWeight.get included.stages.dispatched.store =
      Item.blockWeight.get included.stages.ready.store :=
    Slot.get_congr _ (included.dispatched_spares
      (not_under_head .blockWeight (Call.not_names (by decide) _)))
  have notes : Item.blockWeight.get after.store = Item.blockWeight.get included.applied.store :=
    Slot.get_congr _ ((noteApplied_names _ _).spared included.notes
      (not_under_head .blockWeight (by decide)))
  rw [← called] at asks
  exact ⟨_, asks, notes.trans (settle_weighs included.stages.settles)⟩

theorem respects (respects : rules.weights.Respects (Item.blockWeight.get before.store)) :
    rules.weights.Respects (Item.blockWeight.get after.store) := by
  obtain ⟨asked, admits, left⟩ := included.weighs
  rw [left]
  exact (admits.respects respects).lessened fun kind _ => returnRoom_within kind

theorem weighs_other (kind : DispatchClass) (other : kind ≠ (form.info extrinsic).kind) :
    timeOf after.store kind = timeOf before.store kind := by
  obtain ⟨asked, admits, left⟩ := included.weighs
  unfold timeOf
  rw [left, returnRoom_other other, admits.others kind other]

/-- The base weight of an extrinsic that is not mandatory is never given back. -/
theorem weighs_base (member : (form.info extrinsic).kind ∈ DispatchClass.nonMandatory) :
    timeOf before.store (form.info extrinsic).kind + baseTime ≤
      timeOf after.store (form.info extrinsic).kind := by
  obtain ⟨asked, admits, left⟩ := included.weighs
  obtain ⟨total, limits, below⟩ := maxTotal_along _ member
  have limited : (rules.weights.get (form.info extrinsic).kind).Limited := Or.inl (by rw [limits]; rfl)
  have charged := admits.charged limited .time
  have within := admits.total total limits .time
  have unspent := (outcome.post.along_unspent (form.info extrinsic) .time).2
  rw [Weight.along_saturatingAdd, baseTime_along] at charged
  unfold classTime at below
  unfold timeOf
  rw [left, returnRoom_same]
  omega

end Included

private theorem kind_of_timeless {extrinsic : Extrinsic} (timeless : Timeless extrinsic) :
    (form.info extrinsic).kind = .normal ∨ (form.info extrinsic).kind = .operational := by
  change (Call.info extrinsic.call).kind = _ ∨ (Call.info extrinsic.call).kind = _
  cases called : extrinsic.call with
  | timestamp call => exact absurd called (timeless call)
  | system call => cases call <;> simp [Call.info, SystemCall.info, SystemCall.kind]
  | balances call => exact Or.inl rfl

/-! ### The number of extrinsics -/

/-- A block has no more extrinsics than its classes have room for, beside the one that tells the
time. -/
structure Counted (count : Nat) (store : Store) : Prop where
  respects : rules.weights.Respects (Item.blockWeight.get store)
  weighs : baseTime * count ≤ timeOf store .normal + timeOf store .operational +
    if (store.get? Timestamp.isSet.key).isSome then baseTime else 0

namespace Counted

variable {count : Nat} {store : Store}

theorem few (counted : Counted count store) : count < 65536 := by
  have bound : ∀ kind ∈ DispatchClass.nonMandatory, timeOf store kind ≤ classTime := by
    intro kind member
    obtain ⟨total, limits, below⟩ := maxTotal_along kind member
    exact Nat.le_trans (counted.respects.total kind member total limits .time) below
  have normal := bound .normal (by decide)
  have operational := bound .operational (by decide)
  have weighs := counted.weighs
  have base : baseTime = 107074000 := by decide
  unfold classTime at normal operational
  rw [base] at weighs
  split at weighs <;> omega

theorem seen {before after : Store} (same : after.visible = before.visible)
    (counted : Counted count before) : Counted count after := by
  have weights := Slot.seen_get Item.blockWeight after before same
  have mark := Store.seen_get? Timestamp.isSet.key after before same
  dsimp only at mark
  constructor
  · rw [weights]
    exact counted.respects
  · unfold timeOf
    rw [weights, mark]
    exact counted.weighs

theorem begins {header : Header Number} {before begun : World}
    (fresh : before.store.get? Item.extrinsicsLength.key = none)
    (run : chain.begin header before = .ok () begun) : Counted 0 begun.store where
  respects := (Chain.begin_kept beginsLocal not_false not_false fresh run).respects
  weighs := Nat.zero_le _

theorem includes {extrinsic : Extrinsic} {outcome : DispatchOutcome} {before after : World}
    (included : Included extrinsic outcome before after) (counted : Counted count before.store) :
    Counted (count + 1) after.store := by
  refine ⟨included.respects counted.respects, ?_⟩
  have weighs := counted.weighs
  rcases timeless_or_told extrinsic with timeless | ⟨moment, called⟩
  · rw [(included.timeless timeless).isSet, Nat.mul_succ]
    rcases kind_of_timeless timeless with normal | operational
    · have base := included.weighs_base (normal ▸ by decide)
      have other := included.weighs_other .operational (normal ▸ by decide)
      rw [normal] at base
      omega
    · have base := included.weighs_base (operational ▸ by decide)
      have other := included.weighs_other .normal (operational ▸ by decide)
      rw [operational] at base
      omega
  · obtain ⟨_, absent, _, told⟩ := included.tells called
    have mandatory : (form.info extrinsic).kind = .mandatory := by
      change (Call.info extrinsic.call).kind = .mandatory
      rw [called]
      rfl
    have marked : (after.store.get? Timestamp.isSet.key).isSome = true :=
      Option.isSome_iff_ne_none.mpr told.marked
    have normal := included.weighs_other .normal (mandatory ▸ by decide)
    have operational := included.weighs_other .operational (mandatory ▸ by decide)
    rw [absent, Option.isSome_none, if_neg Bool.false_ne_true] at weighs
    rw [normal, operational, if_pos marked, Nat.mul_succ]
    omega

end Counted

end StateTransition.Testnet
