import StateTransition.Proofs.Inherent.Order
import StateTransition.Proofs.Testnet.Authoring
import StateTransition.Proofs.Testnet.Included
import StateTransition.Proofs.Timestamp

set_option autoImplicit false

/-! Every block that is imported tells its time, once and before all else. A block that was told its
time cannot be told again, and one that was not cannot end; since the call may not fail, an importer
accepts nothing but the inherent of an author; and inherents come first. -/

namespace StateTransition.Testnet

open Item (Under under_head under_row)
open Timestamp (Told)

/-- An extrinsic that does not tell the time, signed or not. -/
def Timeless (extrinsic : Extrinsic) : Prop := ∀ call, extrinsic.call ≠ .timestamp call

theorem timeless_or_told (extrinsic : Extrinsic) :
    Timeless extrinsic ∨ ∃ moment, extrinsic.call = .timestamp (.set moment) := by
  obtain ⟨signature, call⟩ := extrinsic
  cases call with
  | timestamp call => exact Or.inr ⟨call.1, rfl⟩
  | system call =>
      left
      intro call same
      cases same
  | balances call =>
      left
      intro call same
      cases same

/-- What is known of the time is the same in both states. -/
structure SameTime (before after : Store) : Prop where
  now : after.get? Timestamp.now.key = before.get? Timestamp.now.key
  isSet : after.get? Timestamp.isSet.key = before.get? Timestamp.isSet.key

namespace SameTime

variable {first second third : Store}

theorem refl (store : Store) : SameTime store store := ⟨rfl, rfl⟩

theorem trans (earlier : SameTime first second) (later : SameTime second third) :
    SameTime first third :=
  ⟨later.now.trans earlier.now, later.isSet.trans earlier.isSet⟩

theorem of_spares {names : List Item.Name} (apart : ∀ name ∈ [Item.Name.now, .isSet], name ∉ names)
    (spares : ∀ key, ¬Under names key → second.get? key = first.get? key) :
    SameTime first second where
  now := spares _ (Item.not_under_head .now (apart _ (by decide)))
  isSet := spares _ (Item.not_under_head .isSet (apart _ (by decide)))

theorem entered (world : World) : SameTime world.store (Layer.enteredWorld world).store where
  now := Layer.entered_get? _ (Item.Name.head_ne (by decide : Item.Name.now ≠ .level))
  isSet := Layer.entered_get? _ (Item.Name.head_ne (by decide : Item.Name.isSet ≠ .level))

theorem follows (same : SameTime first second) (moment : Moment) :
    Timestamp.follows moment second = Timestamp.follows moment first := by
  unfold Timestamp.follows
  rw [Timestamp.now.get_congr same.now]

end SameTime

/-! ### Single extrinsics -/

theorem time_not_kept : ∀ name ∈ [Item.Name.now, .isSet], name ∉ Bookkeeping.names := by
  decide

namespace Included

variable {extrinsic : Extrinsic} {outcome : DispatchOutcome} {before after : World}

private theorem readied_time (included : Included extrinsic outcome before after) :
    SameTime before.store included.stages.ready.store :=
  SameTime.of_spares time_not_kept fun _ outside =>
    included.readied fun kept => outside kept.under

private theorem closed_time (included : Included extrinsic outcome before after) :
    SameTime included.stages.dispatched.store after.store :=
  SameTime.of_spares time_not_kept fun _ outside =>
    included.closed 0 fun kept => outside kept.under

theorem timeless (included : Included extrinsic outcome before after)
    (other : Timeless extrinsic) : SameTime before.store after.store := by
  have apart : ∀ name ∈ [Item.Name.now, .isSet], name ∉ extrinsic.call.names := by
    have system : ∀ name ∈ [Item.Name.now, .isSet], name ∉ systemNames := by decide
    have balances : ∀ name ∈ [Item.Name.now, .isSet], name ∉ balanceNames := by decide
    cases called : extrinsic.call with
    | timestamp call => exact absurd called (other call)
    | system call => exact system
    | balances call => exact balances
  have called : SameTime included.stages.ready.store included.stages.dispatched.store :=
    SameTime.of_spares apart fun _ outside =>
      (dispatch_names extrinsic.call (signer? extrinsic)).spared included.dispatched outside
  exact (included.readied_time.trans called).trans included.closed_time

/-- The time is told by nobody, once, and follows on that of the last block. A call that tells it and
fails is not included. -/
theorem tells {moment : Moment} (included : Included extrinsic outcome before after)
    (called : extrinsic.call = .timestamp (.set moment)) :
    extrinsic = ⟨none, .timestamp (.set moment)⟩ ∧
      before.store.get? Timestamp.isSet.key = none ∧
      Timestamp.follows moment before.store = true ∧ Told moment after.store := by
  have dispatched := included.dispatched
  have mandatory : (form.info extrinsic).kind = .mandatory := by
    change (Call.info extrinsic.call).kind = .mandatory
    rw [called]
    rfl
  rw [called] at dispatched
  rcases Call.layered_cases (runTimestamp_names _ _) dispatched with
    ⟨⟨failure, fails⟩, _⟩ | ⟨post, ended, _, ran, leaves⟩
  · subst fails
    exact absurd ⟨rfl, mandatory⟩ included.allowed
  obtain ⟨nobody, absent, follows, forced⟩ := Timestamp.run_eq_ok ran
  have nowApart : Timestamp.now.key ≠ Layer.levelKey :=
    Item.Name.head_ne (by decide : Item.Name.now ≠ .level)
  have markApart : Timestamp.isSet.key ≠ Layer.levelKey :=
    Item.Name.head_ne (by decide : Item.Name.isSet ≠ .level)
  have begun : SameTime before.store (Layer.enteredWorld included.stages.ready).store :=
    included.readied_time.trans (SameTime.entered _)
  have left : SameTime ended.store after.store :=
    SameTime.trans ⟨leaves _ nowApart, leaves _ markApart⟩ included.closed_time
  have told := Timestamp.force_told moment (Layer.enteredWorld included.stages.ready).store
  rw [← forced] at told
  rw [begun.isSet] at absent
  rw [begun.follows] at follows
  refine ⟨?_, absent, follows, told.spared left.now left.isSet⟩
  obtain ⟨signature, call⟩ := extrinsic
  dsimp only at called
  subst called
  cases signature with
  | none => rfl
  | some signature =>
      obtain ⟨who, _, signs⟩ := included.signer_eq rfl
      have signed := included.signed
      rw [signs] at signed
      rw [← signed] at nobody
      cases nobody

end Included

/-! ### All extrinsics -/

/-- Of the extrinsics in a block none tells the time, or exactly one does. -/
theorem applyAll_time {extrinsics : List Extrinsic} {before after : World}
    (run : chain.applyAll form extrinsics before = .ok () after) :
    (∀ extrinsic ∈ extrinsics, Timeless extrinsic) ∧ SameTime before.store after.store ∨
      ∃ earlier moment later,
        extrinsics = earlier ++ ⟨none, .timestamp (.set moment)⟩ :: later ∧
        (∀ extrinsic ∈ earlier, Timeless extrinsic) ∧ (∀ extrinsic ∈ later, Timeless extrinsic) ∧
        before.store.get? Timestamp.isSet.key = none ∧
        Timestamp.follows moment before.store = true ∧ Told moment after.store := by
  induction extrinsics generalizing before with
  | nil =>
      cases run
      exact Or.inl ⟨List.forall_mem_nil _, SameTime.refl _⟩
  | cons first others ih =>
      obtain ⟨result, middle, atFirst, atOthers⟩ := Chain.applyAll_cons_iff.mp run
      obtain ⟨_, _, ⟨included⟩⟩ := included_of_run atFirst
      rcases timeless_or_told first with timeless | ⟨moment, called⟩
      · have same := included.timeless timeless
        rcases ih atOthers with ⟨rest, sameRest⟩ | ⟨earlier, moment, later, split, before, after,
          absent, follows, told⟩
        · exact Or.inl ⟨List.forall_mem_cons.mpr ⟨timeless, rest⟩, same.trans sameRest⟩
        · right
          rw [same.isSet] at absent
          rw [same.follows] at follows
          refine ⟨first :: earlier, moment, later, ?_,
            List.forall_mem_cons.mpr ⟨timeless, before⟩, after, absent, follows, told⟩
          rw [split]
          rfl
      · obtain ⟨rfl, absent, follows, told⟩ := included.tells called
        rcases ih atOthers with ⟨rest, sameRest⟩ | ⟨_, _, _, _, _, _, again, _, _⟩
        · exact Or.inr ⟨[], moment, others, rfl, List.forall_mem_nil _, rest, absent, follows,
            told.spared sameRest.now sameRest.isSet⟩
        · exact absurd again told.marked

/-! ### The ends of a block -/

theorem begin_time {header : Header Number} {before begun : World}
    (run : chain.begin header before = .ok () begun) : SameTime before.store begun.store :=
  SameTime.of_spares (by decide) fun _ outside => begin_spares outside run

private theorem idleAndFinish_eq (number : Number) : chain.idleAndFinish number = (do
    chain.idle number
    Timestamp.finish
    rules.updateMultiplier
    return ()) := rfl

theorem sealing_time {number : Number} {world after : World} {header : Header Number}
    (run : chain.sealing number world = .ok header after) :
    Timestamp.isSet.get world.store = true ∧
      after.store.get? Timestamp.isSet.key = none ∧
      after.store.get? Timestamp.now.key = world.store.get? Timestamp.now.key := by
  have apart : ∀ name ∈ [Item.Name.now, .isSet], name ∉ closingNames := by decide
  have held : HoldsBlock Number (Under closingNames) := holdsBlock fun _ member => member
  obtain ⟨_, noted, notes, later⟩ := Action.bind_eq_ok run
  obtain ⟨_, finished, finishes, seals⟩ := Action.bind_eq_ok later
  rw [idleAndFinish_eq] at finishes
  obtain ⟨_, idled, idles, hooks⟩ := Action.bind_eq_ok finishes
  obtain ⟨_, clocked, clocks, others⟩ := Action.bind_eq_ok hooks
  obtain ⟨_, multiplied, multiplies, ends⟩ := Action.bind_eq_ok others
  cases ends
  have noting : Action.Local (Under closingNames) (Action.change Environment.finishExtrinsics) :=
    Action.Local.change (Environment.finishExtrinsics_local held.extrinsic held.count)
  have atNoting : SameTime world.store noted.store :=
    SameTime.of_spares apart fun _ outside => noting.spared notes outside
  have idling : Action.Local (Under [.blockWeight]) (chain.idle number) :=
    Chain.idle_local (under_head .blockWeight (by decide)) (List.forall_mem_nil _) number
  have atIdling : SameTime noted.store idled.store :=
    SameTime.of_spares (by decide) fun _ outside => idling.spared idles outside
  have multiplying : Action.Local (Under [.nextMultiplier]) rules.updateMultiplier :=
    Rules.updateMultiplier_local (under_head .nextMultiplier (by decide))
  have atMultiplying : SameTime clocked.store finished.store :=
    SameTime.of_spares (by decide) fun _ outside => multiplying.spared multiplies outside
  have acts := Rules.finishBlock_acts rules held
  have sealing : Action.Local (Under closingNames) (Action.update rules.finishBlock) :=
    Action.Local.update acts.seen acts.isLocal
  have atSealing : SameTime finished.store after.store :=
    SameTime.of_spares apart fun _ outside => sealing.spared seals outside
  obtain ⟨told, untold⟩ := Timestamp.finish_eq_ok clocks
  have idle := atNoting.trans atIdling
  have closed := atMultiplying.trans atSealing
  refine ⟨?_, ?_, ?_⟩
  · rw [← Timestamp.isSet.get_congr idle.isSet]
    exact told
  · rw [closed.isSet]
    exact untold
  · exact (sealing_local number).spared run (Item.not_under_head .now (by decide))

/-! ### Blocks -/

theorem isInherent_timeless {extrinsic : Extrinsic} (timeless : Timeless extrinsic) :
    chain.isInherent form extrinsic = false := by
  obtain ⟨signature, call⟩ := extrinsic
  cases call with
  | timestamp call => exact absurd rfl (timeless call)
  | system call => cases signature <;> rfl
  | balances call => cases signature <;> rfl

private theorem ordinary_of_inherentsFirst {first : Extrinsic} {others : List Extrinsic}
    {count : Nat} (ordinary : chain.isInherent form first = false)
    (found : chain.inherentsFirst form (first :: others) = .ok count) :
    ∀ other ∈ others, chain.isInherent form other = false := by
  rw [Chain.inherentsFirst_of_ordinary ordinary] at found
  cases place : others.findIdx? (chain.isInherent form) with
  | some place =>
      rw [place] at found
      cases found
  | none => exact List.findIdx?_eq_none_iff.mp place

/-- A block that is imported tells its time by its first extrinsic, which nobody has signed, and by
no other. That is the time from then on, and not before the least period after the last block is
over; and the next block has to tell its own. -/
theorem execute_tells_time (header : Header Number) (extrinsics : List Extrinsic)
    (before after : World) (untold : before.store.get? Timestamp.isSet.key = none)
    (run : chain.execute form ⟨header, extrinsics⟩ before = .ok () after) :
    ∃ moment others, extrinsics = ⟨none, .timestamp (.set moment)⟩ :: others ∧
      (∀ other ∈ others, ∀ call, other.call ≠ .timestamp call) ∧
      Timestamp.now.get after.store = moment ∧
      after.store.get? Timestamp.isSet.key = none ∧
      (Timestamp.now.get before.store ≠ 0 →
        Word.saturatingAdd (Timestamp.now.get before.store) Timestamp.leastPeriod ≤ moment) := by
  obtain ⟨begun, applied, found, begins, inherents, applies, seals, _⟩ := Chain.execute_iff.mp run
  have beginning := begin_time begins
  obtain ⟨told, idle, sameNow⟩ := sealing_time seals
  rcases applyAll_time applies with
    ⟨_, same⟩ | ⟨earlier, moment, later, rfl, ordinary, rest, _, follows, now⟩
  · rw [Timestamp.isSet.get_congr (beginning.trans same).isSet, Slot.get, Slot.stored?, Store.read?,
      untold] at told
    cases told
  have first : earlier = [] := by
    cases earlier with
    | nil => rfl
    | cons extrinsic others =>
        obtain ⟨_, _, count, first⟩ := (Chain.checkBeginning_eq_ok _).mp inherents
        have timeless := isInherent_timeless (ordinary extrinsic List.mem_cons_self)
        have none := ordinary_of_inherentsFirst timeless first ⟨none, .timestamp (.set moment)⟩
          (List.mem_append_right _ List.mem_cons_self)
        cases none
  subst first
  rw [beginning.follows] at follows
  refine ⟨moment, later, rfl, rest, (Timestamp.now.get_congr sameNow).trans now.now, idle, ?_⟩
  intro some
  exact (Timestamp.follows_iff moment _).mp follows some

/-- A block after one of time 1000, with a transaction beside its inherent. The signature of the
transaction is one by the neutral point of the curve, which proves any message. -/
theorem execute_tells_time_second :
    ∃ (header : Header Number) (extrinsics : List Extrinsic) (before after : World),
      extrinsics.length = 2 ∧ Timestamp.now.get before.store = 1000 ∧
      before.store.get? Timestamp.isSet.key = none ∧
      chain.execute form ⟨header, extrinsics⟩ before = .ok () after ∧
      Timestamp.now.get after.store = 2000 := by
  let who : AccountId := ⟨1 :: List.replicate 31 0, rfl⟩
  let proof : Octets 64 := ⟨1 :: List.replicate 63 0, rfl⟩
  let remark : Extrinsic := ⟨some ⟨.id who, proof, ⟨.immortal, 0, 0⟩⟩, .system (.remark [])⟩
  let extrinsics : List Extrinsic := [⟨none, .timestamp (.set 2000)⟩, remark]
  let endowed := Action.ending (rules.endow [(who, 1000000000000000)]) ⟨.empty, []⟩
  let before : World := ⟨Timestamp.now.put 1000 (rules.writeGenesis endowed.store), []⟩
  have built : (Action.answer (author (Header.blank 1) extrinsics) before).map
      (fun found => (found.1.draft, found.2)) =
      .ok (Header.blank 1, [.ok (.ok ()), .ok (.ok ())]) := by decide +kernel
  have untold : before.store.get? Timestamp.isSet.key = none := by decide +kernel
  obtain ⟨header, ended, first, builds⟩ := builds_of_author (by decide) built
    (List.forall_mem_cons.mpr ⟨rfl, List.forall_mem_singleton.mpr rfl⟩)
  obtain ⟨after, run, _⟩ := execute_of_builds (beq_eq_false_iff_ne.mpr fun zero =>
    first (UInt32.toNat_inj.mp zero)) ⟨1, by decide⟩ builds
  obtain ⟨moment, others, told, _, now, _⟩ := execute_tells_time header extrinsics _ _ untold run
  injection told with inherent rest
  cases inherent
  exact ⟨header, extrinsics, before, after, rfl, by decide +kernel, untold, run, now⟩

end StateTransition.Testnet
