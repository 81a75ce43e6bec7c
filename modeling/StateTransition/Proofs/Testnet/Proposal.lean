import StateTransition.Proofs.Testnet.Inherent
import Mathlib.Data.List.Basic

set_option autoImplicit false

/-! The time that an author proposes. It is the one time of the block, an importer with the same
clock finds it at most too far in the future, and the block accepts it; and whatever time an
importer finds nothing wrong with, a block does not find too early. -/

namespace StateTransition

namespace Timestamp

variable {clock : Moment} {store : Store}

private theorem le_latest (clock : Moment) : clock ≤ latest clock :=
  UInt64.le_iff_toNat_le.mpr (@Word.le_saturatingAdd UInt64 _ clock mostDrift)

def proposal (clock : Moment) (store : Store) : Moment := max clock (earliest store)

private theorem earliest_le_proposal : earliest store ≤ proposal clock store := by
  rw [proposal, UInt64.le_iff_toNat_le, UInt64.toNat_max]
  omega

private theorem proposal_le_latest_iff :
    proposal clock store ≤ latest clock ↔ earliest store ≤ latest clock := by
  have near := UInt64.le_iff_toNat_le.mp (le_latest clock)
  rw [proposal, UInt64.le_iff_toNat_le, UInt64.le_iff_toNat_le, UInt64.toNat_max]
  omega

end Timestamp

namespace Testnet

open Timestamp (earliest latest fault? proposal)

def telling (moment : Moment) : Extrinsic := ⟨none, .timestamp (.set moment)⟩

section

variable {data : InherentData} {clock : Moment} {store : Store}

/-! ### Proposed and checked -/

private theorem createInherents_of_known
    (known : data.get Codec.word Timestamp.topic = .ok (some clock)) :
    chain.createInherents form data store = .ok [telling (proposal clock store)] := by
  have creates : timestampSource.create data store =
      .ok (some (.timestamp (.set (proposal clock store)))) := by
    change (Timestamp.create data >>= _) store = _
    rw [Query.bind_run_ok (Timestamp.create_of_known known)]
    rfl
  have all : InherentSource.createAll data chain.inherents store =
      .ok [.timestamp (.set (proposal clock store))] := by
    change (timestampSource.create data >>= _) store = _
    rw [Query.bind_run_ok creates]
    rfl
  unfold Chain.createInherents
  rw [Query.bind_run_ok all]
  rfl

theorem checkInherents_proposal
    (known : data.get Codec.word Timestamp.topic = .ok (some clock)) :
    ∃ report, chain.checkInherents form [telling (proposal clock store)] data store = .ok report ∧
      report.fatal = false ∧ (report.okay = true ↔ earliest store ≤ latest clock) := by
  refine ⟨_, checkInherents_of_known known _, ?_⟩
  have single : timeFaults clock (leadingTimes [telling (proposal clock store)]) store =
      (fault? clock store (proposal clock store)).toList := by
    change [proposal clock store].filterMap (fault? clock store) = _
    cases found : fault? clock store (proposal clock store) with
    | none => rw [List.filterMap_cons_none found, List.filterMap_nil, Option.toList_none]
    | some fault =>
        rw [List.filterMap_cons_some found, List.filterMap_nil, Option.toList_some]
  rw [single, ← @Timestamp.proposal_le_latest_iff clock store]
  by_cases near : proposal clock store ≤ latest clock
  · rw [Timestamp.fault?_of_timely near Timestamp.earliest_le_proposal]
    exact ⟨rfl, fun _ => near, fun _ => rfl⟩
  · rw [Timestamp.fault?_of_far (UInt64.not_le.mp near)]
    exact ⟨rfl, nofun, fun other => absurd other near⟩

end

/-! ### Applied -/

section

variable {moment : Moment} {before begun : World}

private theorem lengthWith_unused {store : Store}
    (unused : store.get? Item.extrinsicsLength.key = none) :
    rules.lengthWith (form.info (telling moment)) 12 store = .ok 12 := by
  unfold Rules.lengthWith
  rw [Environment.extrinsicsLength_of_none unused]
  rfl

private theorem prepare_telling (unused : before.store.get? Item.extrinsicsLength.key = none)
    (first : Item.blockWeight.get before.store = beginningWeight) :
    ∃ ready, (chain.prepare ⟨none, .timestamp (.set moment)⟩ (form.info (telling moment))
      (form.codec.encode (telling moment)).length).run before = .ok (.ok none) ready := by
  have short : (form.codec.encode (telling moment)).length = 12 := rfl
  have single : rules.checkExtrinsicWeight (form.info (telling moment)) = .ok () := rfl
  have weights : ∃ weight, rules.weights.consumedWith beginningWeight
      (Timestamp.callInfo .disk) = .ok weight := ⟨_, rfl⟩
  rw [← first] at weights
  obtain ⟨room, weight, found⟩ :=
    Rules.roomWith_iff.mpr ⟨⟨12, lengthWith_unused unused⟩, single, weights⟩
  have takes := Rules.takeRoom_iff.mpr ⟨room, weight, found, rfl⟩
  have prepares : (rules.prepareBare (form.info (telling moment)) 12 Check.all).run before =
      .ok (.ok ()) ⟨Item.blockWeight.put weight (Item.extrinsicsLength.put room before.store),
        before.notes⟩ := by
    rw [Rules.prepareBare_eq]
    exact takes
  rw [short]
  exact ⟨_, Attempt.bind_run_ok prepares⟩

private theorem dispatch_telling {ready : World}
    (untold : ready.store.get? Timestamp.isSet.key = none)
    (outside : ready.store.get? Layer.levelKey = none)
    (late : Timestamp.follows moment ready.store = true) :
    ∃ dispatched, dispatch (.timestamp (.set moment)) .nobody ready =
      .ok (.ok .unchanged) dispatched := by
  rw [← (SameTime.entered ready).isSet] at untold
  rw [← (SameTime.entered ready).follows] at late
  have layered := Call.layered_run
    (Timestamp.run (.nobody : Origin AccountId) (.set moment)) ready
  rw [Layer.level_eq_zero_of_absent outside, if_neg (by decide),
    Timestamp.run_of_follows untold late] at layered
  exact ⟨_, layered⟩

private theorem applyExtrinsic_telling (untold : begun.store.get? Timestamp.isSet.key = none)
    (unused : begun.store.get? Item.extrinsicsLength.key = none)
    (outside : begun.store.get? Layer.levelKey = none)
    (first : Item.blockWeight.get begun.store = beginningWeight)
    (late : Timestamp.follows moment begun.store = true) :
    ∃ after, Entry.applyExtrinsic (telling moment) begun = .ok (.ok (.ok ())) after ∧
      Timestamp.now.get after.store = moment := by
  have spares : ∀ name, name ∉ [Item.Name.extrinsicData] →
      (noted (form.codec.encode (telling moment)) begun.layered).store.get? name.head =
        begun.store.get? name.head := fun name foreign =>
    (noted_spares _ begun.layered (Item.not_under_head name foreign)).trans (layered_get? begun _)
  obtain ⟨ready, prepares⟩ := prepare_telling
    ((spares .extrinsicsLength (by decide)).trans unused)
    ((Slot.get_congr Item.blockWeight (spares .blockWeight (by decide))).trans first)
  have readied : ∀ key, ¬Bookkeeping 0 none key → ready.store.get? key =
      (noted (form.codec.encode (telling moment)) begun.layered).store.get? key :=
    fun key apart => prepare_spares prepares apart
  have sameTime : SameTime begun.store ready.store :=
    SameTime.trans ⟨spares .now (by decide), spares .isSet (by decide)⟩
      (SameTime.of_spares time_not_kept fun key apart => readied key fun kept => apart kept.under)
  obtain ⟨dispatched, dispatches⟩ := dispatch_telling (sameTime.isSet.trans untold)
    (((readied _ Bookkeeping.level_apart).trans (spares .level (by decide))).trans outside)
    ((sameTime.follows moment).trans late)
  obtain ⟨ended, inside⟩ := Chain.applyExtrinsic_of_dispatched safeLives
    (fun _ => Action.Total.pure ()) (rfl : form.check (telling moment) begun.layered.store = _)
    prepares dispatches fun bad => nomatch bad.1
  have applies := Entry.applyExtrinsic_run (telling moment) begun
  rw [inside] at applies
  refine ⟨_, applies, ?_⟩
  -- What was written is read off from the inclusion, as for any extrinsic that tells the time.
  obtain ⟨last, insideAgain, looks, _⟩ := Entry.included_run applies
  obtain ⟨_, _, ⟨included⟩⟩ := included_of_run insideAgain
  obtain ⟨_, _, _, told⟩ := included.tells rfl
  exact (Timestamp.now.seen_get _ _ looks).trans told.now

end

/-! ### Agreement -/

private theorem dispatch_ne_tooEarly {clock moment : Moment} {store : Store}
    (fine : fault? clock store moment = none) (origin : Origin AccountId) {world after : World}
    (same : Timestamp.now.get world.store = Timestamp.now.get store) :
    dispatch (.timestamp (.set moment)) origin world ≠ .error .timestampTooEarly after := by
  have entered : Timestamp.now.get (Layer.enteredWorld world).store = Timestamp.now.get store :=
    (Slot.get_congr _ (SameTime.entered world).now).trans same
  have late : Timestamp.follows moment (Layer.enteredWorld world).store = true := by
    apply Timestamp.follows_of_earliest
    rw [earliest, entered]
    exact Timestamp.earliest_le_of_fine fine
  intro trapped
  have layered := Call.layered_run (Timestamp.run origin (.set moment)) world
  change Call.layered (Timestamp.run origin (.set moment)) world = _ at trapped
  rw [trapped] at layered
  by_cases full : Layer.limit ≤ Layer.level world.store
  · rw [if_pos full] at layered
    cases layered
  · rw [if_neg full] at layered
    cases ran : (Timestamp.run origin (.set moment)).run (Layer.enteredWorld world) with
    | ok outcome ended =>
        rw [ran] at layered
        cases layered
    | error cause ended =>
        rw [ran] at layered
        cases layered
        exact Timestamp.run_ne_tooEarly late ran

/-- An author, an importer and the block agree on the time. With a clock and where a block has
just begun there is one inherent. An importer with the same clock does not find it fatal, and okay
as long as the least period does not lead out of the drift; and the block accepts it, and has its
time from then on, which is that of the clock or the first that may follow. And a time with which
an importer finds nothing wrong is not too early for a block. -/
theorem proposal_agreed (data : InherentData) (clock : Moment)
    (known : data.get Codec.word Timestamp.topic = .ok (some clock)) :
    (∀ (header : Header Number) (before : World),
      before.store.get? Timestamp.isSet.key = none →
      before.store.get? Item.extrinsicsLength.key = none →
      before.store.get? Layer.levelKey = none →
      ∃ begun extrinsic report after, chain.begin header before = .ok () begun ∧
        chain.createInherents form data begun.store = .ok [extrinsic] ∧
        chain.checkInherents form [extrinsic] data begun.store = .ok report ∧
        report.fatal = false ∧
        (report.okay = true ↔ earliest begun.store ≤ latest clock) ∧
        Entry.applyExtrinsic extrinsic begun = .ok (.ok (.ok ())) after ∧
        Timestamp.now.get after.store = max clock (earliest begun.store)) ∧
    ∀ (moment : Moment) (store : Store), Timestamp.check (.set moment) data store = .ok none →
      ∀ (origin : Origin AccountId) (world after : World),
        Timestamp.now.get world.store = Timestamp.now.get store →
        dispatch (.timestamp (.set moment)) origin world ≠ .error .timestampTooEarly after := by
  constructor
  · intro header before untold unused outside
    obtain ⟨_, begun, begins⟩ := begin_total header before
    have spares : ∀ name, name ∉ Chain.beginningNames →
        begun.store.get? name.head = before.store.get? name.head := fun name foreign =>
      begin_spares (Item.not_under_head name foreign) begins
    obtain ⟨report, checks, mild, okay⟩ := checkInherents_proposal known
    obtain ⟨after, applies, now⟩ := applyExtrinsic_telling
      ((spares .isSet (by decide)).trans untold)
      ((spares .extrinsicsLength (by decide)).trans unused)
      ((spares .level (by decide)).trans outside) (begin_weighs begins)
      (Timestamp.follows_of_earliest (@Timestamp.earliest_le_proposal clock _))
    exact ⟨begun, _, report, after, begins, createInherents_of_known known, checks, mild, okay,
      applies, now⟩
  · intro moment store accepts origin world after same
    rw [Timestamp.check_of_known known] at accepts
    exact dispatch_ne_tooEarly (Option.map_eq_none_iff.mp (Except.ok.inj accepts)) origin same

/-- A clock that is behind: the block takes the first time that may follow on that of the last
one. -/
theorem proposal_agreed_behind :
    ∃ (header : Header Number) (before begun after : World) (data : InherentData)
        (extrinsic : Extrinsic) (report : InherentReport),
      data.get Codec.word Timestamp.topic = .ok (some (5000 : Moment)) ∧
      before.store.get? Timestamp.isSet.key = none ∧
      before.store.get? Item.extrinsicsLength.key = none ∧
      before.store.get? Layer.levelKey = none ∧
      Timestamp.now.get before.store = 4900 ∧ chain.begin header before = .ok () begun ∧
      chain.createInherents form data begun.store = .ok [extrinsic] ∧
      chain.checkInherents form [extrinsic] data begun.store = .ok report ∧
      report.okay = true ∧ Entry.applyExtrinsic extrinsic begun = .ok (.ok (.ok ())) after ∧
      Timestamp.now.get after.store = 5900 ∧
      Timestamp.check (.set 5900) data before.store = .ok none ∧
      ∀ ended, dispatch (.timestamp (.set 5900)) .nobody before ≠
        .error .timestampTooEarly ended := by
  let before : World := ⟨Timestamp.now.put 4900 .empty, []⟩
  have known : (Timestamp.knowledge 5000).get Codec.word Timestamp.topic =
      .ok (some (5000 : Moment)) := by decide +kernel
  have untold : before.store.get? Timestamp.isSet.key = none := by decide +kernel
  have unused : before.store.get? Item.extrinsicsLength.key = none := by decide +kernel
  have outside : before.store.get? Layer.levelKey = none := by decide +kernel
  have last : Timestamp.now.get before.store = 4900 := by decide +kernel
  obtain ⟨agrees, accepts⟩ := proposal_agreed (Timestamp.knowledge 5000) 5000 known
  obtain ⟨begun, extrinsic, report, after, begins, creates, checks, _, okay, applies, now⟩ :=
    agrees (Header.blank 1) before untold unused outside
  have next : earliest begun.store = 5900 := by
    rw [earliest, Slot.get_congr _ (begin_time begins).now, last]
    decide
  rw [next] at okay now
  have fine : Timestamp.check (.set 5900) (Timestamp.knowledge 5000) before.store = .ok none := by
    rw [Timestamp.check_of_known known, Timestamp.fault?_of_timely (by decide) (by
      rw [earliest, last]
      decide)]
    rfl
  exact ⟨_, before, begun, after, _, extrinsic, report, known, untold, unused, outside, last,
    begins, creates, checks, okay.mpr (by decide), applies, now, fine, fun _ =>
      accepts 5900 before.store fine .nobody before _ rfl⟩

end Testnet

end StateTransition
