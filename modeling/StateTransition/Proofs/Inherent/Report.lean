import StateTransition.Inherent.Data
import StateTransition.Proofs.Store.KeyMap

set_option autoImplicit false

/-! Reports on inherents. The first fatal fault is all that a report has in the end; where none is
fatal, it has the first fault of each topic. -/

namespace StateTransition

namespace Octets

variable {length : Nat}

private theorem bytes_inj {left right : Octets length} :
    left.bytes = right.bytes ↔ left = right := by
  constructor
  · intro same
    cases left
    cases right
    cases same
    rfl
  · rintro rfl
    rfl

private theorem fit_bytes (octets : Octets length) : fit length octets.bytes = octets :=
  bytes_inj.mp (fit_of_length octets.bytes octets.length_eq)

end Octets

namespace InherentData

variable (data : InherentData) (id : InherentId) (value : Bytes)

private theorem find?_empty : empty.find? id = none := rfl

private theorem find?_replace (other : InherentId) : (data.replace id value).find? other =
    if other = id then some value else data.find? other := by
  have found := KeyMap.find?_insert data.entries id.bytes other.bytes value
  simp only [Octets.bytes_inj] at found
  exact found

private theorem toList_empty_replace : (empty.replace id value).toList = [(id, value)] := by
  change [(Octets.fit 8 id.bytes, value)] = _
  rw [Octets.fit_bytes]

private theorem toList_replace_ne_nil : (data.replace id value).toList ≠ [] := by
  intro none
  have empty : (data.replace id value).entries.entries = [] := List.map_eq_nil_iff.mp none
  have found := data.find?_replace id value id
  rw [if_pos rfl, find?, KeyMap.find?, empty] at found
  cases found

private theorem put_of_absent {data : InherentData} {id : InherentId}
    (absent : data.find? id = none) (value : Bytes) :
    data.put id value = .ok (data.replace id value) := by
  rw [put, absent]

private theorem put_of_present {data : InherentData} {id : InherentId}
    (present : data.find? id ≠ none) (value : Bytes) :
    data.put id value = .error (.present id) := by
  obtain ⟨old, found⟩ := Option.ne_none_iff_exists'.mp present
  rw [put, found]

end InherentData

namespace InherentReport

variable {report : InherentReport} {id : InherentId} {fault : InherentFault}

def only (id : InherentId) (fault : InherentFault) : InherentReport where
  okay := false
  fatal := fault.fatal
  faults := InherentData.empty.replace id fault.encoded

/-! ### One fault -/

private theorem put_of_fatal (fatal : report.fatal = true) :
    report.put id fault = .error .fatalReported := by
  rw [put, if_pos fatal]

private theorem put_fatal (ongoing : report.fatal = false) (final : fault.fatal = true) :
    report.put id fault = .ok (only id fault) := by
  have fresh := InherentData.put_of_absent (InherentData.find?_empty id) fault.encoded
  rw [put, ongoing, if_neg Bool.false_ne_true, if_pos final, fresh]
  rfl

private theorem put_first (ongoing : report.fatal = false) (passing : fault.fatal = false)
    (absent : report.faults.find? id = none) :
    report.put id fault =
      .ok ⟨false, false, report.faults.replace id fault.encoded⟩ := by
  rw [put, ongoing, if_neg Bool.false_ne_true, passing, if_neg Bool.false_ne_true,
    InherentData.put_of_absent absent]

private theorem put_second (ongoing : report.fatal = false) (passing : fault.fatal = false)
    (present : report.faults.find? id ≠ none) :
    report.put id fault = .error (.present id) := by
  rw [put, ongoing, if_neg Bool.false_ne_true, passing, if_neg Bool.false_ne_true,
    InherentData.put_of_present present]

private theorem record_of_ok {changed : InherentReport} (puts : report.put id fault = .ok changed) :
    report.record id fault = changed := by
  rw [record, puts]

private theorem record_of_error {cause : InherentError}
    (refused : report.put id fault = .error cause) : report.record id fault = report := by
  rw [record, refused]

theorem refused_of_fatal (ended : report.fatal = true) (id : InherentId) (fault : InherentFault) :
    report.put id fault = .error .fatalReported ∧ report.record id fault = report :=
  ⟨put_of_fatal ended, record_of_error (put_of_fatal ended)⟩

theorem refused_second (ongoing : report.fatal = false) (passing : fault.fatal = false)
    (present : report.faults.find? id ≠ none) :
    report.put id fault = .error (.present id) ∧ report.record id fault = report :=
  ⟨put_second ongoing passing present, record_of_error (put_second ongoing passing present)⟩

theorem record_fatal (final : fault.fatal = true) : (report.record id fault).fatal = true := by
  cases ended : report.fatal with
  | true =>
      rw [record_of_error (put_of_fatal ended)]
      exact ended
  | false =>
      rw [record_of_ok (put_fatal ended final)]
      exact final

private theorem record_passing (ongoing : report.fatal = false) (passing : fault.fatal = false) :
    (report.record id fault).fatal = false ∧
      ∀ other, (report.record id fault).faults.find? other =
        (report.faults.find? other).or (if other = id then some fault.encoded else none) := by
  cases found : report.faults.find? id with
  | none =>
      rw [record_of_ok (put_first ongoing passing found)]
      refine ⟨rfl, fun other => ?_⟩
      rw [InherentData.find?_replace]
      by_cases same : other = id
      · rw [if_pos same, if_pos same, same, found]
        rfl
      · rw [if_neg same, if_neg same, Option.or_none]
  | some old =>
      have present : report.faults.find? id ≠ none := by
        rw [found]
        exact Option.some_ne_none old
      rw [record_of_error (put_second ongoing passing present)]
      refine ⟨ongoing, fun other => ?_⟩
      by_cases same : other = id
      · rw [same, found]
        rfl
      · rw [if_neg same, Option.or_none]

/-! ### Many faults -/

def recordAll (report : InherentReport) (faults : List (InherentId × InherentFault)) :
    InherentReport :=
  faults.foldl (fun report put => report.record put.1 put.2) report

variable {faults : List (InherentId × InherentFault)}

theorem recordAll_of_fatal (fatal : report.fatal = true) : report.recordAll faults = report := by
  induction faults with
  | nil => rfl
  | cons first others ih =>
      change (report.record first.1 first.2).recordAll others = report
      rw [record_of_error (put_of_fatal fatal), ih]

/-- The first fatal fault takes the place of those before it, and none is reported after it. -/
theorem recordAll_fatal {fatal : InherentId × InherentFault} (ongoing : report.fatal = false)
    (found : faults.find? (·.2.fatal) = some fatal) :
    report.recordAll faults = only fatal.1 fatal.2 := by
  induction faults generalizing report with
  | nil => cases found
  | cons first others ih =>
      change (report.record first.1 first.2).recordAll others = _
      cases kind : first.2.fatal with
      | true =>
          simp only [List.find?_cons, kind] at found
          cases found
          rw [record_of_ok (put_fatal ongoing kind), recordAll_of_fatal kind]
      | false =>
          simp only [List.find?_cons, kind] at found
          exact ih (record_passing ongoing kind).1 found

private theorem recordAll_passing (ongoing : report.fatal = false)
    (passing : ∀ put ∈ faults, put.2.fatal = false) :
    (report.recordAll faults).fatal = false ∧
      ∀ topic, (report.recordAll faults).faults.find? topic =
        (report.faults.find? topic).or
          ((faults.find? (·.1 = topic)).map fun put => put.2.encoded) := by
  induction faults generalizing report with
  | nil => exact ⟨ongoing, fun topic => (Option.or_none).symm⟩
  | cons first others ih =>
      obtain ⟨atFirst, atOthers⟩ := List.forall_mem_cons.mp passing
      obtain ⟨still, finds⟩ := @record_passing report first.1 first.2 ongoing atFirst
      obtain ⟨ended, shows⟩ := ih still atOthers
      refine ⟨ended, fun topic => (shows topic).trans ?_⟩
      rw [finds, Option.or_assoc]
      congr 1
      by_cases same : first.1 = topic
      · simp only [List.find?_cons, decide_eq_true same, if_pos same.symm]
        rfl
      · simp only [List.find?_cons, decide_eq_false same, if_neg (Ne.symm same)]
        rfl

theorem clean_record (id : InherentId) (fault : InherentFault) :
    clean.record id fault = only id fault := by
  cases kind : fault.fatal with
  | true => exact record_of_ok (put_fatal rfl kind)
  | false =>
      rw [record_of_ok (put_first rfl kind (InherentData.find?_empty id)), only, kind]
      rfl

theorem recordAll_repeated (same : ∀ put ∈ faults, put = (id, fault)) :
    (only id fault).recordAll faults = only id fault := by
  cases kind : fault.fatal with
  | true => exact recordAll_of_fatal kind
  | false =>
      have present : (only id fault).faults.find? id ≠ none := by
        rw [only, InherentData.find?_replace, if_pos rfl]
        exact Option.some_ne_none _
      induction faults with
      | nil => rfl
      | cons first others ih =>
          obtain ⟨rfl, atOthers⟩ := List.forall_mem_cons.mp same
          change ((only id fault).record id fault).recordAll others = _
          rw [record_of_error (put_second kind kind present), ih atOthers]

private theorem fatal_recordAll_iff : (clean.recordAll faults).fatal = true ↔
    ∃ fatal, faults.find? (·.2.fatal) = some fatal := by
  cases found : faults.find? (·.2.fatal) with
  | none =>
      have passing : ∀ put ∈ faults, put.2.fatal = false := fun put member =>
        Bool.eq_false_iff.mpr (List.find?_eq_none.mp found put member)
      rw [(recordAll_passing rfl passing).1]
      exact ⟨nofun, fun ⟨_, impossible⟩ => nomatch impossible⟩
  | some fatal =>
      rw [recordAll_fatal rfl found]
      have final := List.find?_some found
      exact ⟨fun _ => ⟨fatal, rfl⟩, fun _ => final⟩

theorem recordAll_ended (ended : (clean.recordAll faults).fatal = true) :
    ∃ fatal, faults.find? (·.2.fatal) = some fatal ∧
      (clean.recordAll faults).faults.toList = [(fatal.1, fatal.2.encoded)] := by
  obtain ⟨fatal, found⟩ := fatal_recordAll_iff.mp ended
  refine ⟨fatal, found, ?_⟩
  rw [recordAll_fatal rfl found]
  exact InherentData.toList_empty_replace _ _

theorem recordAll_ongoing (ongoing : (clean.recordAll faults).fatal = false) (id : InherentId) :
    (clean.recordAll faults).faults.find? id =
      (faults.find? (·.1 = id)).map fun put => put.2.encoded := by
  have noneFatal : faults.find? (·.2.fatal) = none := by
    apply Option.eq_none_iff_forall_ne_some.mpr
    intro fatal found
    rw [fatal_recordAll_iff.mpr ⟨fatal, found⟩] at ongoing
    cases ongoing
  exact (recordAll_passing rfl fun put member =>
    Bool.eq_false_iff.mpr (List.find?_eq_none.mp noneFatal put member)).2 id

def contents (report : InherentReport) : Bool × Bool × List (InherentId × Bytes) :=
  (report.okay, report.fatal, report.faults.toList)

theorem contents_only (id : InherentId) (fault : InherentFault) :
    (only id fault).contents = (false, fault.fatal, [(id, fault.encoded)]) := by
  rw [contents, only, InherentData.toList_empty_replace]

def Honest (report : InherentReport) : Prop := report.okay = true ↔ report.faults.toList = []

theorem Honest.record (honest : report.Honest) : (report.record id fault).Honest := by
  have faulty (fatal : Bool) (data : InherentData) (value : Bytes) :
      Honest ⟨false, fatal, data.replace id value⟩ :=
    ⟨nofun, fun none => absurd none (data.toList_replace_ne_nil id value)⟩
  cases ended : report.fatal with
  | true =>
      rw [record_of_error (put_of_fatal ended)]
      exact honest
  | false =>
      cases kind : fault.fatal with
      | true =>
          rw [record_of_ok (put_fatal ended kind)]
          exact faulty _ _ _
      | false =>
          by_cases absent : report.faults.find? id = none
          · rw [record_of_ok (put_first ended kind absent)]
            exact faulty _ _ _
          · rw [record_of_error (put_second ended kind absent)]
            exact honest

theorem Honest.recordAll (honest : report.Honest) : (report.recordAll faults).Honest := by
  induction faults generalizing report with
  | nil => exact honest
  | cons first others ih => exact ih honest.record

theorem clean_honest : clean.Honest := ⟨fun _ => rfl, fun _ => rfl⟩

end InherentReport

end StateTransition
