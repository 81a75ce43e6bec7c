import StateTransition.Proofs.Inherent.Report
import StateTransition.Proofs.Testnet.Pool
import StateTransition.Proofs.Testnet.Time

set_option autoImplicit false

/-! The inherent of the test network: what a clock says of the times at the beginning of a block,
and that an author, an importer and the block itself agree on the time that the author proposes.
-/

namespace StateTransition.Testnet

open Timestamp (earliest latest fault?)

/-! ### Leading times -/

/-- The times that are set without a signature before anything else is done. -/
def leadingTimes : List Extrinsic → List Moment
  | ⟨none, .timestamp (.set moment)⟩ :: others => moment :: leadingTimes others
  | _ => []

def setting (times : List Moment) : List Call := times.map fun moment => .timestamp (.set moment)

private theorem isInherent_iff (extrinsic : Extrinsic) : chain.isInherent form extrinsic = true ↔
    ∃ moment, extrinsic = ⟨none, .timestamp (.set moment)⟩ := by
  constructor
  · intro inherent
    rcases timeless_or_told extrinsic with timeless | ⟨moment, called⟩
    · rw [isInherent_timeless timeless] at inherent
      cases inherent
    · obtain ⟨signature, call⟩ := extrinsic
      cases signature with
      | none => exact ⟨moment, congrArg (Extrinsic.mk none) called⟩
      | some signature => cases inherent
  · rintro ⟨moment, rfl⟩
    rfl

private theorem inherents_eq (extrinsics : List Extrinsic) :
    (extrinsics.takeWhile (chain.isInherent form)).map form.call =
      setting (leadingTimes extrinsics) := by
  fun_induction leadingTimes extrinsics with
  | case1 moment others ih =>
      rw [List.takeWhile_cons_of_pos ((isInherent_iff _).mpr ⟨moment, rfl⟩), List.map_cons, ih]
      rfl
  | case2 extrinsics other =>
      cases extrinsics with
      | nil => rfl
      | cons first others =>
          have ordinary : ¬chain.isInherent form first = true := by
            intro inherent
            obtain ⟨moment, rfl⟩ := (isInherent_iff first).mp inherent
            exact other moment others rfl
          rw [List.takeWhile_cons_of_neg ordinary]
          rfl

/-! ### The verdict -/

section

variable {data : InherentData} {clock : Moment} {store : Store} {report : InherentReport}

/-- What is wrong with the leading times of a block, by a clock. -/
def timeFaults (clock : Moment) (times : List Moment) (store : Store) : List TimestampFault :=
  if times = [] then [.missing] else times.filterMap (fault? clock store)

def timeReports (faults : List TimestampFault) : List (InherentId × InherentFault) :=
  faults.map fun fault => (Timestamp.topic, fault.report)

private theorem checkCall_of_unknown
    (unknown : data.get (Codec.word : Codec Moment) Timestamp.topic = .ok none) (moment : Moment) :
    InherentSource.checkCall data (.timestamp (.set moment)) report chain.inherents store =
      .ok (false, report) := by
  have checks : timestampSource.check (.timestamp (.set moment)) data store = .ok none :=
    Timestamp.check_of_unknown unknown
  change (timestampSource.check (.timestamp (.set moment)) data >>= _) store = _
  rw [Query.bind_run_ok checks]
  rfl

private theorem checkCall_of_known (known : data.get Codec.word Timestamp.topic = .ok (some clock))
    (moment : Moment) :
    InherentSource.checkCall data (.timestamp (.set moment)) report chain.inherents store =
      .ok (match fault? clock store moment with
        | none => (false, report)
        | some fault => (fault.isFatal, report.record Timestamp.topic fault.report)) := by
  have checks : timestampSource.check (.timestamp (.set moment)) data store =
      .ok ((fault? clock store moment).map TimestampFault.report) :=
    Timestamp.check_of_known known
  change (timestampSource.check (.timestamp (.set moment)) data >>= _) store = _
  rw [Query.bind_run_ok checks]
  cases fault? clock store moment with
  | none => rfl
  | some fault => cases fault <;> rfl

private theorem checkCalls_of_unknown
    (unknown : data.get (Codec.word : Codec Moment) Timestamp.topic = .ok none)
    (times : List Moment) :
    chain.checkCalls data report (setting times) store = .ok (false, report) := by
  induction times with
  | nil => rfl
  | cons first others ih =>
      change (InherentSource.checkCall data (.timestamp (.set first)) report chain.inherents >>= _)
        store = _
      rw [Query.bind_run_ok (checkCall_of_unknown unknown first)]
      exact ih

/-- The check goes on to the first fatal fault. It might as well go on to the end, since nothing is
reported after it. -/
theorem checkCalls_of_known (known : data.get Codec.word Timestamp.topic = .ok (some clock))
    (times : List Moment) :
    chain.checkCalls data report (setting times) store =
      .ok ((times.filterMap (fault? clock store)).any TimestampFault.isFatal,
        report.recordAll (timeReports (times.filterMap (fault? clock store)))) := by
  induction times generalizing report with
  | nil => rfl
  | cons first others ih =>
      change (InherentSource.checkCall data (.timestamp (.set first)) report chain.inherents >>= _)
        store = _
      rw [Query.bind_run_ok (checkCall_of_known known first)]
      cases found : fault? clock store first with
      | none =>
          rw [List.filterMap_cons_none found]
          exact ih
      | some fault =>
          rw [List.filterMap_cons_some found]
          cases final : fault.isFatal with
          | true =>
              have ended : (report.record Timestamp.topic fault.report).fatal = true :=
                InherentReport.record_fatal final
              have stays : report.recordAll (timeReports
                  (fault :: others.filterMap (fault? clock store))) =
                    report.record Timestamp.topic fault.report :=
                InherentReport.recordAll_of_fatal ended
              rw [stays, List.any_cons, final]
              simp only [final]
              rfl
          | false =>
              rw [List.any_cons, final]
              simp only [final]
              exact ih

private theorem checkRequired_of_unknown
    (unknown : data.get (Codec.word : Codec Moment) Timestamp.topic = .ok none)
    (calls : List Call) :
    InherentSource.checkRequired data calls report chain.inherents store = .ok report := by
  have required : timestampSource.requirement data store = .ok .notRequired :=
    Timestamp.requirement_of_unknown unknown
  change (timestampSource.requirement data >>= _) store = _
  rw [Query.bind_run_ok required]
  rfl

private theorem checkRequired_of_known
    (known : data.get Codec.word Timestamp.topic = .ok (some clock)) (times : List Moment) :
    InherentSource.checkRequired data (setting times) report chain.inherents store =
      .ok (if times = [] then report.record Timestamp.topic TimestampFault.missing.report
        else report) := by
  have required : timestampSource.requirement data store =
      .ok (.required TimestampFault.missing.report) :=
    Timestamp.requirement_of_known known
  change (timestampSource.requirement data >>= _) store = _
  rw [Query.bind_run_ok required]
  cases times <;> rfl

private theorem checkInherents_of_unknown
    (unknown : data.get (Codec.word : Codec Moment) Timestamp.topic = .ok none)
    (extrinsics : List Extrinsic) :
    chain.checkInherents form extrinsics data store = .ok .clean := by
  unfold Chain.checkInherents
  rw [inherents_eq]
  rw [Query.bind_run_ok (checkCalls_of_unknown unknown _)]
  exact checkRequired_of_unknown unknown _

theorem checkInherents_of_known
    (known : data.get Codec.word Timestamp.topic = .ok (some clock)) (extrinsics : List Extrinsic) :
    chain.checkInherents form extrinsics data store =
      .ok (InherentReport.clean.recordAll
        (timeReports (timeFaults clock (leadingTimes extrinsics) store))) := by
  unfold Chain.checkInherents
  rw [inherents_eq]
  rw [Query.bind_run_ok (checkCalls_of_known known _)]
  unfold timeFaults
  cases times : leadingTimes extrinsics with
  | nil => exact checkRequired_of_known known []
  | cons first others =>
      rw [if_neg (List.cons_ne_nil first others)]
      cases ((first :: others).filterMap (fault? clock store)).any TimestampFault.isFatal with
      | true => rfl
      | false => exact checkRequired_of_known known (first :: others)

variable {times : List Moment}

private theorem timeFaults_of_early
    (early : ∃ moment ∈ times, moment ≤ latest clock ∧ moment < earliest store) :
    (timeFaults clock times store).find? TimestampFault.isFatal = some .tooEarly := by
  obtain ⟨moment, member, near, early⟩ := early
  rw [timeFaults, if_neg (List.ne_nil_of_mem member)]
  have among : TimestampFault.tooEarly ∈ times.filterMap (fault? clock store) :=
    List.mem_filterMap.mpr ⟨moment, member, Timestamp.fault?_of_early near early⟩
  obtain ⟨fault, found⟩ := Option.isSome_iff_exists.mp
    (List.find?_isSome.mpr ⟨_, among, (rfl : TimestampFault.isFatal .tooEarly = true)⟩)
  obtain ⟨_, _, faulty⟩ := List.mem_filterMap.mp (List.mem_of_find?_eq_some found)
  rcases Timestamp.fault?_eq_some faulty with ⟨rfl, _⟩ | ⟨rfl, _⟩
  · cases List.find?_some found
  · exact found

private theorem timeFaults_of_far
    (timely : ∀ moment ∈ times, moment ≤ latest clock → earliest store ≤ moment)
    (far : ∃ moment ∈ times, latest clock < moment) :
    timeFaults clock times store ≠ [] ∧
      ∀ fault ∈ timeFaults clock times store, fault = .tooFarInFuture := by
  obtain ⟨moment, member, far⟩ := far
  rw [timeFaults, if_neg (List.ne_nil_of_mem member)]
  have among : TimestampFault.tooFarInFuture ∈ times.filterMap (fault? clock store) :=
    List.mem_filterMap.mpr ⟨moment, member, Timestamp.fault?_of_far far⟩
  refine ⟨List.ne_nil_of_mem among, fun fault reported => ?_⟩
  obtain ⟨other, otherMember, faulty⟩ := List.mem_filterMap.mp reported
  rcases Timestamp.fault?_eq_some faulty with ⟨late, _⟩ | ⟨_, near, early⟩
  · exact late
  · exact absurd (timely other otherMember near) (UInt64.not_le.mpr early)

private theorem timeFaults_of_timely (some : times ≠ [])
    (timely : ∀ moment ∈ times, moment ≤ latest clock → earliest store ≤ moment)
    (near : ∀ moment ∈ times, moment ≤ latest clock) : timeFaults clock times store = [] := by
  rw [timeFaults, if_neg some, List.filterMap_eq_nil_iff]
  intro moment member
  exact Timestamp.fault?_of_timely (near moment member) (timely moment member (near moment member))

theorem recordAll_fatal {faults : List TimestampFault} {fault : TimestampFault}
    (found : faults.find? TimestampFault.isFatal = some fault) :
    InherentReport.clean.recordAll (timeReports faults) =
      .only Timestamp.topic fault.report := by
  have reported : (timeReports faults).find? (·.2.fatal) =
      some (Timestamp.topic, fault.report) := by
    rw [timeReports, List.find?_map]
    exact congrArg (Option.map fun fault => (Timestamp.topic, fault.report)) found
  exact InherentReport.recordAll_fatal rfl reported

private theorem recordAll_far {faults : List TimestampFault} (some : faults ≠ [])
    (far : ∀ fault ∈ faults, fault = .tooFarInFuture) :
    InherentReport.clean.recordAll (timeReports faults) =
      .only Timestamp.topic TimestampFault.tooFarInFuture.report := by
  cases faults with
  | nil => exact absurd rfl some
  | cons first others =>
      obtain ⟨rfl, later⟩ := List.forall_mem_cons.mp far
      change (InherentReport.clean.record Timestamp.topic _).recordAll (timeReports others) = _
      rw [InherentReport.clean_record]
      apply InherentReport.recordAll_repeated
      intro put member
      obtain ⟨fault, among, rfl⟩ := List.mem_map.mp member
      rw [later fault among]

variable {extrinsics : List Extrinsic}

private theorem contents_of_known (known : data.get Codec.word Timestamp.topic = .ok (some clock)) :
    (chain.checkInherents form extrinsics data store).map InherentReport.contents =
      .ok (InherentReport.clean.recordAll
        (timeReports (timeFaults clock (leadingTimes extrinsics) store))).contents :=
  congrArg (Except.map InherentReport.contents) (checkInherents_of_known known extrinsics)

private theorem contents_of_fatal (known : data.get Codec.word Timestamp.topic = .ok (some clock))
    {fault : TimestampFault}
    (found : (timeFaults clock (leadingTimes extrinsics) store).find? TimestampFault.isFatal =
      some fault) :
    (chain.checkInherents form extrinsics data store).map InherentReport.contents =
      .ok (false, true, [(Timestamp.topic, TimestampFault.codec.encode fault)]) := by
  have final : fault.isFatal = true := List.find?_some found
  have reported : fault.report.fatal = true := final
  rw [contents_of_known known, recordAll_fatal found, InherentReport.contents_only, reported]
  rfl

private theorem contents_of_missing (known : data.get Codec.word Timestamp.topic = .ok (some clock))
    (none : leadingTimes extrinsics = []) :
    (chain.checkInherents form extrinsics data store).map InherentReport.contents =
      .ok (false, true, [(Timestamp.topic, TimestampFault.codec.encode .missing)]) := by
  have missing : (timeFaults clock (leadingTimes extrinsics) store).find? TimestampFault.isFatal =
      some .missing := by
    rw [timeFaults, if_pos none]
    rfl
  exact contents_of_fatal known missing

private theorem contents_of_far (known : data.get Codec.word Timestamp.topic = .ok (some clock))
    (timely : ∀ moment ∈ leadingTimes extrinsics, moment ≤ latest clock → earliest store ≤ moment)
    (far : ∃ moment ∈ leadingTimes extrinsics, latest clock < moment) :
    (chain.checkInherents form extrinsics data store).map InherentReport.contents =
      .ok (false, false, [(Timestamp.topic, TimestampFault.codec.encode .tooFarInFuture)]) := by
  obtain ⟨some, late⟩ := timeFaults_of_far timely far
  rw [contents_of_known known, recordAll_far some late, InherentReport.contents_only]
  rfl

private theorem contents_of_timely (known : data.get Codec.word Timestamp.topic = .ok (some clock))
    (timely : ∀ moment ∈ leadingTimes extrinsics, moment ≤ latest clock → earliest store ≤ moment)
    (some : leadingTimes extrinsics ≠ [])
    (near : ∀ moment ∈ leadingTimes extrinsics, moment ≤ latest clock) :
    (chain.checkInherents form extrinsics data store).map InherentReport.contents =
      .ok (true, false, []) := by
  rw [contents_of_known known, timeFaults_of_timely some timely near]
  rfl

end

/-- An importer whose clock is not known to it finds nothing wrong. With a clock, one leading time
that is near enough and too early is all that it reports, and fatal; else a block without a
leading time is; else one that is too far in the future is reported, once and not as fatal; else
nothing is. And whatever is put into a report that was clean, it is okay as long as it has no
faults; a fatal fault is the only one in it, and then none can be put into it; and a topic can
have no second fault that is not fatal. -/
theorem checkInherents_verdict :
    (∀ (store : Store) (extrinsics : List Extrinsic) (data : InherentData),
      let verdict := (chain.checkInherents form extrinsics data store).map InherentReport.contents
      let times := leadingTimes extrinsics
      (data.get (Codec.word : Codec Moment) Timestamp.topic = .ok none →
        verdict = .ok (true, false, [])) ∧
      ∀ clock, data.get Codec.word Timestamp.topic = .ok (some clock) →
        ((∃ moment ∈ times, moment ≤ latest clock ∧ moment < earliest store) →
          verdict = .ok (false, true, [(Timestamp.topic, TimestampFault.codec.encode .tooEarly)])) ∧
        ((∀ moment ∈ times, moment ≤ latest clock → earliest store ≤ moment) →
          (times = [] → verdict =
            .ok (false, true, [(Timestamp.topic, TimestampFault.codec.encode .missing)])) ∧
          ((∃ moment ∈ times, latest clock < moment) → verdict =
            .ok (false, false, [(Timestamp.topic, TimestampFault.codec.encode .tooFarInFuture)])) ∧
          (times ≠ [] → (∀ moment ∈ times, moment ≤ latest clock) →
            verdict = .ok (true, false, [])))) ∧
    ∀ faults : List (InherentId × InherentFault),
      let report := InherentReport.clean.recordAll faults
      (report.okay = true ↔ report.faults.toList = []) ∧
      (report.fatal = true → ∃ fatal, faults.find? (·.2.fatal) = some fatal ∧
        report.faults.toList = [(fatal.1, fatal.2.encoded)] ∧
        ∀ id fault, report.put id fault = .error .fatalReported ∧
          report.record id fault = report) ∧
      (report.fatal = false →
        (∀ id, report.faults.find? id =
          (faults.find? (·.1 = id)).map fun put => put.2.encoded) ∧
        ∀ id fault, fault.fatal = false → report.faults.find? id ≠ none →
          report.put id fault = .error (.present id) ∧ report.record id fault = report) := by
  constructor
  · intro store extrinsics data verdict times
    constructor
    · intro unknown
      exact congrArg (Except.map InherentReport.contents)
        (checkInherents_of_unknown unknown extrinsics)
    · intro clock known
      constructor
      · intro early
        exact contents_of_fatal known (timeFaults_of_early early)
      · intro timely
        exact ⟨contents_of_missing known, contents_of_far known timely,
          contents_of_timely known timely⟩
  · intro faults report
    refine ⟨InherentReport.clean_honest.recordAll, ?_, ?_⟩
    · intro ended
      obtain ⟨fatal, found, all⟩ := InherentReport.recordAll_ended ended
      exact ⟨fatal, found, all, InherentReport.refused_of_fatal ended⟩
    · intro ongoing
      refine ⟨InherentReport.recordAll_ongoing ongoing, ?_⟩
      intro id fault passing present
      exact InherentReport.refused_second ongoing passing present

/-- After a block of time 1000, by a clock at 5000: a time that is too far in the future is
reported first, and nothing is left of that report when the next one is too early. -/
theorem checkInherents_verdict_of_early :
    ∃ (store : Store) (extrinsics : List Extrinsic) (data : InherentData) (clock : Moment),
      data.get Codec.word Timestamp.topic = .ok (some clock) ∧
      (∃ far ∈ leadingTimes extrinsics, latest clock < far) ∧
      (∃ moment ∈ leadingTimes extrinsics, moment ≤ latest clock ∧ moment < earliest store) ∧
      (chain.checkInherents form extrinsics data store).map InherentReport.contents =
        .ok (false, true, [(Timestamp.topic, TimestampFault.codec.encode .tooEarly)]) := by
  let store := Timestamp.now.put 1000 .empty
  let extrinsics : List Extrinsic :=
    [⟨none, .timestamp (.set 40000)⟩, ⟨none, .timestamp (.set 1500)⟩]
  let data := Timestamp.knowledge 5000
  have known : data.get Codec.word Timestamp.topic = .ok (some (5000 : Moment)) := by
    decide +kernel
  have early : ∃ moment ∈ leadingTimes extrinsics,
      moment ≤ latest 5000 ∧ moment < earliest store :=
    ⟨1500, List.mem_cons_of_mem _ List.mem_cons_self, by decide +kernel, by decide +kernel⟩
  obtain ⟨judges, _⟩ := checkInherents_verdict
  obtain ⟨_, clocked⟩ := judges store extrinsics data
  obtain ⟨tooEarly, _⟩ := clocked 5000 known
  exact ⟨store, extrinsics, data, 5000, known,
    ⟨40000, List.mem_cons_self, by decide +kernel⟩, early, tooEarly early⟩

end StateTransition.Testnet
