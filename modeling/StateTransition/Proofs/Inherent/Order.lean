import Mathlib.Data.List.TakeWhile
import Mathlib.Order.Bounds.Basic
import StateTransition.Chain.Block
import StateTransition.Proofs.Action
import StateTransition.Proofs.Inherent.Report
import StateTransition.Trial.Chain

set_option autoImplicit false

/-! The order of the inherents in a block. They are counted by one loop and checked by another, each
with a rule of its own for where it ends; both see the same inherents. -/

namespace StateTransition

namespace InherentSource

variable {Call : Type} {data : InherentData} {call : Call} {report ended : InherentReport}
variable {store : Store}

/-- A check of a call stops early only where its report has become fatal. -/
theorem checkCall_fatal {sources : List (InherentSource Call)}
    (stops : checkCall data call report sources store = .ok (true, ended)) :
    ended.fatal = true := by
  induction sources generalizing report with
  | nil => cases stops
  | cons source others ih =>
      rw [checkCall] at stops
      by_cases itself : source.isInherent call = true
      · rw [if_pos itself] at stops
        obtain ⟨found, _, afterCheck⟩ := Query.bind_eq_ok stops
        cases found with
        | none => exact ih afterCheck
        | some fault =>
            change (if fault.fatal then _ else _ : Query (Bool × InherentReport)) store = _
              at afterCheck
            by_cases final : fault.fatal = true
            · rw [if_pos final] at afterCheck
              cases afterCheck
              exact InherentReport.record_fatal final
            · rw [if_neg final] at afterCheck
              exact ih afterCheck
      · rw [if_neg itself] at stops
        exact ih stops

end InherentSource

namespace Chain

variable {Account Number Call Form : Type}
variable (chain : Chain Account Number Call)
variable (form : ExtrinsicForm Account Number Call Form)

/-! ### Places -/

/-- The first `count` extrinsics are inherents, and no later one is. -/
structure InherentsLead (extrinsics : List Form) (count : Nat) : Prop where
  enough : count ≤ extrinsics.length
  first : ∀ place extrinsic, place < count → extrinsics[place]? = some extrinsic →
    chain.isInherent form extrinsic = true
  later : ∀ place extrinsic, count ≤ place → extrinsics[place]? = some extrinsic →
    chain.isInherent form extrinsic = false

/-- The place is that of an inherent with something before it that is none. -/
structure Misplaced (extrinsics : List Form) (place : Nat) : Prop where
  inherent : ∃ extrinsic, extrinsics[place]? = some extrinsic ∧
    chain.isInherent form extrinsic = true
  behind : ∃ earlier extrinsic, earlier < place ∧ extrinsics[earlier]? = some extrinsic ∧
    chain.isInherent form extrinsic = false

variable {chain form} {extrinsics : List Form} {count place : Nat} {extrinsic : Form}

theorem InherentsLead.unique {other : Nat} (lead : chain.InherentsLead form extrinsics count)
    (again : chain.InherentsLead form extrinsics other) : count = other := by
  have least : ∀ {less more : Nat}, chain.InherentsLead form extrinsics less →
      chain.InherentsLead form extrinsics more → more ≤ less := by
    intro less more shorter longer
    by_contra further
    have within : less < extrinsics.length := lt_of_lt_of_le (not_le.mp further) longer.enough
    have present := List.getElem?_eq_getElem within
    have inherent := longer.first less _ (not_le.mp further) present
    rw [shorter.later less _ le_rfl present] at inherent
    cases inherent
  exact le_antisymm (least again lead) (least lead again)

private theorem InherentsLead.not_misplaced (lead : chain.InherentsLead form extrinsics count) :
    ¬chain.Misplaced form extrinsics place := by
  rintro ⟨⟨itself, here, inherent⟩, earlier, before, less, there, ordinary⟩
  by_cases leading : earlier < count
  · rw [lead.first earlier before leading there] at ordinary
    cases ordinary
  · rw [lead.later place itself (by omega) here] at inherent
    cases inherent

/-! ### The leading inherents -/

private theorem leading_inherent
    (leading : place < (extrinsics.takeWhile (chain.isInherent form)).length)
    (present : extrinsics[place]? = some extrinsic) : chain.isInherent form extrinsic = true := by
  obtain ⟨within, rfl⟩ := List.getElem?_eq_some_iff.mp present
  rw [← (List.takeWhile_prefix (chain.isInherent form)).getElem leading]
  exact List.mem_takeWhile_imp (List.getElem_mem leading)

private theorem ordinary_behind
    (present : extrinsics[(extrinsics.takeWhile (chain.isInherent form)).length]? =
      some extrinsic) : chain.isInherent form extrinsic = false := by
  induction extrinsics with
  | nil => cases present
  | cons first others ih =>
      cases inherent : chain.isInherent form first with
      | true =>
          rw [List.takeWhile_cons_of_pos inherent, List.length_cons, List.getElem?_cons_succ]
            at present
          exact ih present
      | false =>
          rw [List.takeWhile_cons_of_neg (Bool.eq_false_iff.mp inherent), List.length_nil,
            List.getElem?_cons_zero] at present
          cases present
          exact inherent

theorem inherentsFirst_ok (counted : chain.inherentsFirst form extrinsics = .ok count) :
    (extrinsics.takeWhile (chain.isInherent form)).length = count ∧
      ∀ extrinsic ∈ extrinsics.drop count, chain.isInherent form extrinsic = false := by
  unfold inherentsFirst at counted
  cases found : (extrinsics.drop (extrinsics.takeWhile (chain.isInherent form)).length).findIdx?
      (chain.isInherent form) with
  | some place =>
      simp only [found] at counted
      cases counted
  | none =>
      simp only [found] at counted
      cases counted
      exact ⟨rfl, List.findIdx?_eq_none_iff.mp found⟩

private theorem takeWhile_of_ok (counted : chain.inherentsFirst form extrinsics = .ok count) :
    extrinsics.takeWhile (chain.isInherent form) = extrinsics.take count := by
  rw [← (inherentsFirst_ok counted).1]
  exact List.prefix_iff_eq_take.mp (List.takeWhile_prefix _)

private theorem lead_of_ok (counted : chain.inherentsFirst form extrinsics = .ok count) :
    chain.InherentsLead form extrinsics count := by
  obtain ⟨rfl, others⟩ := inherentsFirst_ok counted
  refine ⟨(List.takeWhile_prefix _).length_le, fun place extrinsic => leading_inherent, ?_⟩
  intro place extrinsic further present
  obtain ⟨gap, rfl⟩ := Nat.exists_eq_add_of_le further
  rw [← List.getElem?_drop] at present
  exact others extrinsic (List.mem_of_getElem? present)

/-- Between the leading inherents and the place that is found there is something else: at least what
stopped the leading ones. -/
theorem misplaced_of_error (refused : chain.inherentsFirst form extrinsics = .error place) :
    IsLeast {place | chain.Misplaced form extrinsics place} place := by
  unfold inherentsFirst at refused
  generalize counted : (extrinsics.takeWhile (chain.isInherent form)).length = leading at refused
  cases found : (extrinsics.drop leading).findIdx? (chain.isInherent form) with
  | none =>
      simp only [found] at refused
      cases refused
  | some gap =>
      simp only [found] at refused
      cases refused
      obtain ⟨within, inherent, before⟩ := List.findIdx?_eq_some_iff_getElem.mp found
      rw [List.length_drop] at within
      have stops : leading < extrinsics.length := by omega
      have stopped : chain.isInherent form extrinsics[leading] = false := by
        apply ordinary_behind
        rw [counted]
        exact List.getElem?_eq_getElem stops
      -- The leading inherents end before an extrinsic that is none, so the one found lies behind it.
      have further : gap ≠ 0 := by
        rintro rfl
        rw [List.getElem_drop] at inherent
        exact Bool.false_ne_true (stopped.symm.trans inherent)
      constructor
      · refine ⟨⟨extrinsics[leading + gap], List.getElem?_eq_getElem _, ?_⟩, leading,
          extrinsics[leading], by omega, List.getElem?_eq_getElem stops, stopped⟩
        rwa [List.getElem_drop] at inherent
      · rintro other ⟨⟨itself, here, again⟩, earlier, ordinary, less, there, none⟩
        by_contra sooner
        have behind : leading ≤ earlier := by
          by_contra leads
          rw [← counted] at leads
          rw [leading_inherent (not_le.mp leads) there] at none
          cases none
        obtain ⟨distance, rfl⟩ := Nat.exists_eq_add_of_le (behind.trans less.le)
        obtain ⟨_, rfl⟩ := List.getElem?_eq_some_iff.mp here
        have other := before distance (by omega)
        rw [List.getElem_drop] at other
        exact other again

/-! ### Counting -/

/-- The number of inherents as it is counted while the block is read. Every inherent has to be found
at the place that the counter shows. -/
def countInherents (chain : Chain Account Number Call)
    (form : ExtrinsicForm Account Number Call Form) (count : UInt32) (place : Nat) :
    List Form → Except UInt32 UInt32
  | [] => .ok count
  | extrinsic :: others =>
      if chain.isInherent form extrinsic then
        if count ≠ UInt32.ofNat place then .error (UInt32.ofNat place)
        else countInherents chain form (count + 1) (place + 1) others
      else countInherents chain form count (place + 1) others

def inEither {α β : Type} (see : α → β) : Except α α → Except β β
  | .ok value => .ok (see value)
  | .error value => .error (see value)

private theorem inherentsFirst_of_inherent {others : List Form}
    (inherent : chain.isInherent form extrinsic = true) :
    chain.inherentsFirst form (extrinsic :: others) =
      inEither (1 + ·) (chain.inherentsFirst form others) := by
  simp only [inherentsFirst, List.takeWhile_cons_of_pos inherent, List.length_cons,
    List.drop_succ_cons]
  cases List.findIdx? (chain.isInherent form) (List.drop _ others) with
  | none => exact congrArg Except.ok (Nat.add_comm _ 1)
  | some gap =>
      simp only [inEither]
      congr 1
      omega

theorem inherentsFirst_of_ordinary {others : List Form}
    (ordinary : chain.isInherent form extrinsic = false) :
    chain.inherentsFirst form (extrinsic :: others) =
      match others.findIdx? (chain.isInherent form) with
      | some place => .error (place + 1)
      | none => .ok 0 := by
  simp only [inherentsFirst, List.takeWhile_cons_of_neg (Bool.eq_false_iff.mp ordinary),
    List.length_nil, List.drop_zero, List.findIdx?_cons, ordinary, Bool.false_eq_true, if_false]
  cases List.findIdx? (chain.isInherent form) others with
  | none => rfl
  | some place => exact congrArg Except.error (Nat.zero_add _)

/-- A counter that has fallen behind never catches up: the next inherent is misplaced. -/
theorem countInherents_behind {counter : UInt32} (behind : counter.toNat < place)
    (short : place + extrinsics.length < 4294967296) :
    inEither UInt32.toNat (chain.countInherents form counter place extrinsics) =
      match extrinsics.findIdx? (chain.isInherent form) with
      | some gap => .error (place + gap)
      | none => .ok counter.toNat := by
  induction extrinsics generalizing place with
  | nil => rfl
  | cons first others ih =>
      rw [List.length_cons] at short
      have exact : (UInt32.ofNat place).toNat = place := UInt32.toNat_ofNat_of_lt' (by
        change place < 4294967296
        omega)
      rw [countInherents, List.findIdx?_cons]
      cases inherent : chain.isInherent form first with
      | true =>
          have apart : counter ≠ UInt32.ofNat place := by
            rintro rfl
            omega
          rw [if_pos rfl, if_pos apart]
          exact congrArg Except.error exact
      | false =>
          rw [if_neg Bool.false_ne_true, if_neg Bool.false_ne_true, ih (by omega) (by omega)]
          cases others.findIdx? (chain.isInherent form) with
          | none => rfl
          | some gap => exact congrArg Except.error (Nat.add_right_comm place 1 gap)

/-- As long as the counter shows the place, only inherents have been read. -/
theorem countInherents_level (short : place + extrinsics.length < 4294967296) :
    inEither UInt32.toNat (chain.countInherents form (UInt32.ofNat place) place extrinsics) =
      inEither (place + ·) (chain.inherentsFirst form extrinsics) := by
  have exact : (UInt32.ofNat place).toNat = place := UInt32.toNat_ofNat_of_lt' (by
    change place < 4294967296
    omega)
  induction extrinsics generalizing place with
  | nil => exact congrArg Except.ok exact
  | cons first others ih =>
      rw [List.length_cons] at short
      rw [countInherents]
      cases inherent : chain.isInherent form first with
      | true =>
          have next : (UInt32.ofNat (place + 1)).toNat = place + 1 :=
            UInt32.toNat_ofNat_of_lt' (by
              change place + 1 < 4294967296
              omega)
          rw [if_pos rfl, if_neg (not_not.mpr rfl), ← UInt32.ofNat_one, ← UInt32.ofNat_add,
            ih (by omega) next, inherentsFirst_of_inherent inherent]
          cases chain.inherentsFirst form others with
          | ok count => exact congrArg Except.ok (Nat.add_assoc place 1 count)
          | error misplaced => exact congrArg Except.error (Nat.add_assoc place 1 misplaced)
      | false =>
          -- From here on the counter is behind the place, and no later inherent is let through.
          rw [if_neg Bool.false_ne_true, inherentsFirst_of_ordinary inherent,
            countInherents_behind (by omega) (by omega)]
          cases others.findIdx? (chain.isInherent form) with
          | none => exact congrArg Except.ok exact
          | some gap =>
              simp only [inEither]
              congr 1
              omega

private theorem countInherents_eq (short : extrinsics.length < 4294967296) :
    inEither UInt32.toNat (chain.countInherents form 0 0 extrinsics) =
      chain.inherentsFirst form extrinsics := by
  change inEither UInt32.toNat
    (chain.countInherents form (UInt32.ofNat 0) 0 extrinsics) = _
  rw [countInherents_level (by rwa [Nat.zero_add])]
  cases chain.inherentsFirst form extrinsics with
  | ok count => exact congrArg Except.ok (Nat.zero_add count)
  | error place => exact congrArg Except.error (Nat.zero_add place)

/-! ### Checking -/

/-- The check of inherents while the block is read. It goes on to the first extrinsic that is no
inherent, or to the first fatal fault, and keeps the calls that have passed. -/
def examine (chain : Chain Account Number Call) (form : ExtrinsicForm Account Number Call Form)
    (data : InherentData) (passed : List Call) (report : InherentReport) :
    List Form → Query (Bool × List Call × InherentReport)
  | [] => return (false, passed, report)
  | extrinsic :: others => do
      if chain.isInherent form extrinsic then
        match ← InherentSource.checkCall data (form.call extrinsic) report chain.inherents with
        | (true, report) => return (true, passed, report)
        | (false, report) =>
            examine chain form data (passed ++ [form.call extrinsic]) report others
      else return (false, passed, report)

section

variable {data : InherentData} {passed examined : List Call} {report ended : InherentReport}
variable {store : Store} {fatal : Bool}

private theorem checkCalls_fatal {calls : List Call}
    (stops : chain.checkCalls data report calls store = .ok (true, ended)) :
    ended.fatal = true := by
  induction calls generalizing report with
  | nil => cases stops
  | cons call others ih =>
      obtain ⟨⟨fatal, checked⟩, checks, afterCheck⟩ := Query.bind_eq_ok stops
      cases fatal with
      | true =>
          cases afterCheck
          exact InherentSource.checkCall_fatal checks
      | false => exact ih afterCheck

private theorem examine_checks (passed : List Call) (report : InherentReport)
    (extrinsics : List Form) :
    (fun outcome => (outcome.1, outcome.2.2)) <$>
        chain.examine form data passed report extrinsics =
      chain.checkCalls data report
        ((extrinsics.takeWhile (chain.isInherent form)).map form.call) := by
  induction extrinsics generalizing passed report with
  | nil => rfl
  | cons first others ih =>
      rw [examine]
      cases inherent : chain.isInherent form first with
      | true =>
          rw [if_pos rfl, List.takeWhile_cons_of_pos inherent, List.map_cons, checkCalls, map_bind]
          congr 1
          funext ⟨fatal, checked⟩
          cases fatal with
          | true => rfl
          | false => exact ih _ _
      | false =>
          rw [if_neg Bool.false_ne_true,
            List.takeWhile_cons_of_neg (Bool.eq_false_iff.mp inherent)]
          rfl

private theorem examine_passes
    (run : chain.examine form data passed report extrinsics store = .ok (false, examined, ended)) :
    examined = passed ++ (extrinsics.takeWhile (chain.isInherent form)).map form.call := by
  induction extrinsics generalizing passed report with
  | nil =>
      cases run
      exact (List.append_nil examined).symm
  | cons first others ih =>
      rw [examine] at run
      cases inherent : chain.isInherent form first with
      | true =>
          rw [inherent, if_pos rfl] at run
          obtain ⟨⟨fatal, checked⟩, _, afterCheck⟩ := Query.bind_eq_ok run
          cases fatal with
          | true => cases afterCheck
          | false =>
              rw [ih afterCheck, List.takeWhile_cons_of_pos inherent, List.map_cons,
                List.append_assoc]
              rfl
      | false =>
          rw [inherent, if_neg Bool.false_ne_true] at run
          cases run
          rw [List.takeWhile_cons_of_neg (Bool.eq_false_iff.mp inherent)]
          exact (List.append_nil examined).symm

private theorem checkCalls_of_examine
    (run : chain.examine form data passed report extrinsics store = .ok (fatal, examined, ended)) :
    chain.checkCalls data report ((extrinsics.takeWhile (chain.isInherent form)).map form.call)
      store = .ok (fatal, ended) := by
  rw [← examine_checks passed report extrinsics]
  change Except.map _ (chain.examine form data passed report extrinsics store) = _
  rw [run]
  rfl

/-- The check of inherents, read as a loop over the block that is followed by the check of what is
required. -/
theorem checkInherents_eq (extrinsics : List Form) (data : InherentData) :
    chain.checkInherents form extrinsics data = (do
      match ← chain.examine form data [] .clean extrinsics with
      | (true, _, report) => return report
      | (false, examined, report) =>
          InherentSource.checkRequired data examined report chain.inherents) := by
  funext store
  change Except.bind (chain.checkCalls data .clean
      ((extrinsics.takeWhile (chain.isInherent form)).map form.call) store) _ =
    Except.bind (chain.examine form data [] .clean extrinsics store) _
  rw [← examine_checks [] .clean extrinsics]
  change Except.bind (Except.map _ (chain.examine form data [] .clean extrinsics store)) _ = _
  cases run : chain.examine form data [] .clean extrinsics store with
  | error cause => rfl
  | ok outcome =>
      obtain ⟨fatal, examined, report⟩ := outcome
      cases fatal with
      | true => rfl
      | false =>
          have passes := examine_passes run
          rw [List.nil_append] at passes
          rw [passes]
          rfl

end

/-! ### The two loops together -/

/-- The inherents of a block come first exactly if they can be counted, and the place that is told
otherwise is that of the first one with something else before it. A counter that is compared with the
place in the block finds out the same. Where they come first, the check of the inherents examines
them and no other call, unless it ends with a fatal fault. -/
theorem inherentsFirst_exact (chain : Chain Account Number Call)
    (form : ExtrinsicForm Account Number Call Form) (extrinsics : List Form)
    (short : extrinsics.length < 4294967296) :
    (∀ count, chain.inherentsFirst form extrinsics = .ok count ↔
      chain.InherentsLead form extrinsics count) ∧
    (∀ place, chain.inherentsFirst form extrinsics = .error place ↔
      IsLeast {place | chain.Misplaced form extrinsics place} place) ∧
    inEither UInt32.toNat (chain.countInherents form 0 0 extrinsics) =
      chain.inherentsFirst form extrinsics ∧
    ∀ data,
      (chain.checkInherents form extrinsics data = (do
        match ← chain.examine form data [] .clean extrinsics with
        | (true, _, report) => return report
        | (false, examined, report) =>
            InherentSource.checkRequired data examined report chain.inherents)) ∧
      ∀ count, chain.inherentsFirst form extrinsics = .ok count →
        ∀ store,
          (∀ examined report,
            chain.examine form data [] .clean extrinsics store = .ok (false, examined, report) →
            examined = (extrinsics.take count).map form.call) ∧
          ∀ report, chain.checkInherents form extrinsics data store = .ok report →
            report.fatal = false →
            ∃ checked, chain.examine form data [] .clean extrinsics store =
                .ok (false, (extrinsics.take count).map form.call, checked) ∧
              InherentSource.checkRequired data ((extrinsics.take count).map form.call) checked
                chain.inherents store = .ok report := by
  refine ⟨fun count => ⟨lead_of_ok, fun lead => ?_⟩,
    fun place => ⟨misplaced_of_error, fun least => ?_⟩, countInherents_eq short,
    fun data => ⟨checkInherents_eq extrinsics data, fun count counted store => ⟨?_, ?_⟩⟩⟩
  · cases outcome : chain.inherentsFirst form extrinsics with
    | ok other => rw [(lead_of_ok outcome).unique lead]
    | error place => exact absurd (misplaced_of_error outcome).1 lead.not_misplaced
  · cases outcome : chain.inherentsFirst form extrinsics with
    | ok count => exact absurd least.1 (lead_of_ok outcome).not_misplaced
    | error other => rw [(misplaced_of_error outcome).unique least]
  · intro examined report run
    rw [examine_passes run, List.nil_append, takeWhile_of_ok counted]
  · intro report run passing
    rw [checkInherents_eq] at run
    obtain ⟨⟨fatal, examined, checked⟩, examines, afterwards⟩ := Query.bind_eq_ok run
    cases fatal with
    | true =>
        cases afterwards
        have final := checkCalls_fatal (checkCalls_of_examine examines)
        rw [passing] at final
        cases final
    | false =>
        have passes := examine_passes examines
        rw [List.nil_append, takeWhile_of_ok counted] at passes
        subst passes
        exact ⟨checked, examines, afterwards⟩

/-- Of three extrinsics the first two are inherents, and the check that they pass examines both; where
one that is no inherent is put before them, the first of them is misplaced. -/
theorem inherentsFirst_exact_of_trial :
    let chain := Trial.Settings.plain.chain
    let form := Trial.form .plain
    let leading : List Trial.Extrinsic := [⟨none, .first 5⟩, ⟨none, .second 2⟩]
    let other : Trial.Extrinsic := ⟨none, .second 3⟩
    let data := InherentData.empty.replace Trial.firstTopic (Codec.word.encode (6 : UInt64))
    (leading ++ [other]).length < 4294967296 ∧ (other :: leading).length < 4294967296 ∧
      chain.InherentsLead form (leading ++ [other]) 2 ∧
      IsLeast {place | chain.Misplaced form (other :: leading) place} 1 ∧
      ∃ report checked, chain.checkInherents form (leading ++ [other]) data .empty = .ok report ∧
        report.okay = false ∧ report.fatal = false ∧
        chain.examine form data [] .clean (leading ++ [other]) .empty =
          .ok (false, [.first 5, .second 2], checked) := by
  intro chain form leading other data
  have short : (leading ++ [other]).length < 4294967296 := by decide
  have shortToo : (other :: leading).length < 4294967296 := by decide
  have counted : chain.inherentsFirst form (leading ++ [other]) = .ok 2 := by decide +kernel
  have refused : chain.inherentsFirst form (other :: leading) = .error 1 := by decide +kernel
  obtain ⟨counts, _, _, checks⟩ := inherentsFirst_exact chain form (leading ++ [other]) short
  obtain ⟨_, misplaces, _⟩ := inherentsFirst_exact chain form (other :: leading) shortToo
  refine ⟨short, shortToo, (counts 2).mp counted, (misplaces 1).mp refused, ?_⟩
  have run : (chain.checkInherents form (leading ++ [other]) data .empty).map
      (fun report => (report.okay, report.fatal)) = .ok (false, false) := by decide +kernel
  cases outcome : chain.checkInherents form (leading ++ [other]) data .empty with
  | error cause =>
      rw [outcome] at run
      cases run
  | ok report =>
      rw [outcome] at run
      obtain ⟨okay, fatal⟩ := Prod.mk.inj (Except.ok.inj run)
      obtain ⟨checked, examines, _⟩ := ((checks data).2 2 counted .empty).2 report outcome fatal
      exact ⟨report, checked, rfl, okay, fatal, examines⟩

end Chain

end StateTransition
