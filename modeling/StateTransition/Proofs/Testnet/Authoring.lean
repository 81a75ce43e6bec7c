import StateTransition.Proofs.Testnet.Rejection

set_option autoImplicit false

/-! Authors and importers of blocks agree. An author applies candidates in layers of their own and
reads the header off in the end; an importer applies the extrinsics of the block directly and
compares the header with the one it was given. They see the same states all the way. -/

namespace StateTransition

/-- What an author knows of the header of a block before the block is built. -/
def Header.draft {Number : Type} (header : Header Number) : Header Number where
  parentHash := header.parentHash
  number := header.number
  stateRoot := .zero 32
  extrinsicsRoot := .zero 32
  digest := Digest.beforehand header.digest

namespace Testnet

/-- Applies candidates in their order and tells how each of them ended. -/
def Entry.applyEach : List Extrinsic → Action (List ApplyOutcome)
  | [] => return []
  | candidate :: others => do
      let outcome ← applyExtrinsic candidate
      return outcome :: (← applyEach others)

/-- Goes on with a block that has begun. Answers its header, and how each candidate ended. -/
def build (candidates : List Extrinsic) : Action (Header Number × List ApplyOutcome) := do
  let outcomes ← Entry.applyEach candidates
  return (← chain.finish, outcomes)

def author (draft : Header Number) (candidates : List Extrinsic) :
    Action (Header Number × List ApplyOutcome) := do
  chain.begin draft
  build candidates

/-- An author builds a block with this header from these extrinsics and none is rejected. -/
def Builds (header : Header Number) (extrinsics : List Extrinsic) (before after : World) : Prop :=
  ∃ outcomes, author header.draft extrinsics before = .ok (header, outcomes) after ∧
    ∀ outcome ∈ outcomes, outcome.isOk = true

/-- The first list has some candidates more than the second, and they are rejected when their turn
comes. -/
inductive Interleaved : World → List Extrinsic → List Extrinsic → Prop where
  | nil {world : World} : Interleaved world [] []
  | rejected {world after : World} {candidate : Extrinsic} {cause : Rejection}
      {candidates extrinsics : List Extrinsic}
      (run : Entry.applyExtrinsic candidate world = .ok (.error cause) after)
      (rest : Interleaved after candidates extrinsics) :
      Interleaved world (candidate :: candidates) extrinsics
  | shared {world : World} {extrinsic : Extrinsic} {candidates extrinsics : List Extrinsic}
      (rest : ∀ outcome after, Entry.applyExtrinsic extrinsic world = .ok outcome after →
        Interleaved after candidates extrinsics) :
      Interleaved world (extrinsic :: candidates) (extrinsic :: extrinsics)

/-! ### Beginnings -/

private theorem beforehand_beforehand (digest : Digest) :
    Digest.beforehand (Digest.beforehand digest) = Digest.beforehand digest := by
  simp [Digest.beforehand, List.filter_filter]

/-- The beginning of a block looks at no more of its header than an author knows. -/
theorem begin_draft (header : Header Number) : chain.begin header.draft = chain.begin header := by
  unfold Chain.begin Header.draft
  rw [beforehand_beforehand]

/-! ### One extrinsic -/

section

variable {inside direct : World}

/-- Applying an extrinsic in a layer and applying it directly come to the same, unless it is
rejected. -/
theorem Entry.applyExtrinsic_agrees (extrinsic : Extrinsic)
    (same : inside.store.visible = direct.store.visible) :
    Action.answer (applyExtrinsic extrinsic) inside =
        Action.answer (chain.applyExtrinsic form extrinsic).run direct ∧
      ((∀ cause, Action.answer (applyExtrinsic extrinsic) inside ≠ .ok (.error cause)) →
        (Action.ending (applyExtrinsic extrinsic) inside).store.visible =
          (Action.ending (chain.applyExtrinsic form extrinsic).run direct).store.visible) := by
  have isLocal : Action.Local _ (chain.applyExtrinsic form extrinsic).run :=
    Chain.applyExtrinsic_local extrinsicsLocal extrinsic
  have lies := isLocal.beneath inside.layered
  obtain ⟨answers, endings⟩ := isLocal.agrees inside.layered direct same
  rw [← answers, ← endings]
  unfold Action.answer Action.ending
  rw [applyExtrinsic_run]
  cases ran : (chain.applyExtrinsic form extrinsic).run inside.layered with
  | error cause after => exact ⟨rfl, fun _ => rfl⟩
  | ok outcome after =>
      rw [Action.ending_of_run ran] at lies
      cases outcome with
      | error cause => exact ⟨rfl, fun accepted => absurd rfl (accepted cause)⟩
      | ok result =>
          obtain ⟨kept, keeps, looks, _⟩ := Store.keepLayer?_above lies
          refine ⟨rfl, fun _ => ?_⟩
          dsimp only
          rw [keeps]
          exact looks

private theorem Entry.applyExtrinsic_accepts {extrinsic : Extrinsic}
    (same : inside.store.visible = direct.store.visible) {result : Except DispatchError Unit}
    {after : World}
    (run : (chain.applyExtrinsic form extrinsic).run direct = .ok (.ok result) after) :
    ∃ built, applyExtrinsic extrinsic inside = .ok (.ok result) built ∧
      built.store.visible = after.store.visible := by
  obtain ⟨answers, endings⟩ := Entry.applyExtrinsic_agrees extrinsic same
  rw [Action.answer_of_run run] at answers
  rw [Action.ending_of_run run, answers] at endings
  refine ⟨_, Action.run_of_answer_ok answers, endings fun cause different => ?_⟩
  cases different

private theorem Entry.accepts_applyExtrinsic {extrinsic : Extrinsic}
    (same : inside.store.visible = direct.store.visible) {result : Except DispatchError Unit}
    {built : World}
    (run : applyExtrinsic extrinsic inside = .ok (.ok result) built) :
    ∃ after, (chain.applyExtrinsic form extrinsic).run direct = .ok (.ok result) after ∧
      built.store.visible = after.store.visible := by
  obtain ⟨answers, endings⟩ := Entry.applyExtrinsic_agrees extrinsic same
  rw [Action.answer_of_run run] at answers endings
  rw [Action.ending_of_run run] at endings
  refine ⟨_, Action.run_of_answer_ok answers.symm, endings fun cause different => ?_⟩
  cases different

/-- An author who sees the same finds the same. -/
theorem Entry.applyExtrinsic_again (extrinsic : Extrinsic)
    (same : inside.store.visible = direct.store.visible) :
    Action.answer (applyExtrinsic extrinsic) inside =
        Action.answer (applyExtrinsic extrinsic) direct ∧
      (Action.ending (applyExtrinsic extrinsic) inside).store.visible =
        (Action.ending (applyExtrinsic extrinsic) direct).store.visible := by
  obtain ⟨left, leftEnd⟩ := Entry.applyExtrinsic_agrees extrinsic same
  obtain ⟨right, rightEnd⟩ :=
    Entry.applyExtrinsic_agrees extrinsic (rfl : direct.store.visible = direct.store.visible)
  have answers := left.trans right.symm
  refine ⟨answers, ?_⟩
  by_cases rejected : ∃ cause, Action.answer (applyExtrinsic extrinsic) inside = .ok (.error cause)
  · obtain ⟨cause, atInside⟩ := rejected
    have atDirect := answers.symm.trans atInside
    rw [store_of_rejected (Action.run_of_answer_ok atInside),
      store_of_rejected (Action.run_of_answer_ok atDirect)]
    exact same
  · have accepted : ∀ cause,
        Action.answer (applyExtrinsic extrinsic) inside ≠ .ok (.error cause) :=
      fun cause refused => rejected ⟨cause, refused⟩
    exact (leftEnd accepted).trans
      (rightEnd fun cause refused => accepted cause (answers.trans refused)).symm

end

/-! ### All extrinsics -/

private theorem Entry.applyEach_of_applyAll {extrinsics : List Extrinsic}
    {inside direct after : World} (same : inside.store.visible = direct.store.visible)
    (run : chain.applyAll form extrinsics direct = .ok () after) :
    ∃ outcomes built, applyEach extrinsics inside = .ok outcomes built ∧
      (∀ outcome ∈ outcomes, outcome.isOk = true) ∧
      built.store.visible = after.store.visible := by
  induction extrinsics generalizing inside direct with
  | nil =>
      cases run
      exact ⟨[], inside, rfl, List.forall_mem_nil _, same⟩
  | cons extrinsic others ih =>
      obtain ⟨result, middle, atFirst, atOthers⟩ := Chain.applyAll_cons_iff.mp run
      obtain ⟨entered, accepted, sameMiddle⟩ := Entry.applyExtrinsic_accepts same atFirst
      obtain ⟨outcomes, built, applied, allOk, sameEnd⟩ := ih sameMiddle atOthers
      refine ⟨.ok result :: outcomes, built, ?_, ?_, sameEnd⟩
      · rw [applyEach, Action.bind_run_ok accepted, Action.bind_run_ok applied]
        rfl
      · exact List.forall_mem_cons.mpr ⟨rfl, allOk⟩

private theorem Entry.applyAll_of_applyEach {extrinsics : List Extrinsic}
    {inside direct built : World} {outcomes : List ApplyOutcome}
    (same : inside.store.visible = direct.store.visible)
    (run : applyEach extrinsics inside = .ok outcomes built)
    (allOk : ∀ outcome ∈ outcomes, outcome.isOk = true) :
    ∃ after, chain.applyAll form extrinsics direct = .ok () after ∧
      built.store.visible = after.store.visible := by
  induction extrinsics generalizing inside direct outcomes with
  | nil =>
      cases run
      exact ⟨direct, rfl, same⟩
  | cons extrinsic others ih =>
      obtain ⟨outcome, entered, atFirst, afterFirst⟩ := Action.bind_eq_ok run
      obtain ⟨rest, ended, atOthers, finished⟩ := Action.bind_eq_ok afterFirst
      cases finished
      obtain ⟨firstOk, othersOk⟩ := List.forall_mem_cons.mp allOk
      cases outcome with
      | error cause => cases firstOk
      | ok result =>
          obtain ⟨middle, applied, sameMiddle⟩ := Entry.accepts_applyExtrinsic same atFirst
          obtain ⟨after, appliedAll, sameEnd⟩ := ih sameMiddle atOthers othersOk
          exact ⟨after, Chain.applyAll_cons_iff.mpr ⟨result, middle, applied, appliedAll⟩, sameEnd⟩

/-! ### Candidates that are rejected -/

private theorem Entry.applyEach_cons (candidate : Extrinsic) (others : List Extrinsic) :
    applyEach (candidate :: others) = applyExtrinsic candidate >>= fun outcome =>
      List.cons outcome <$> applyEach others := by
  rw [applyEach]
  rfl

def accepted : Except Trap (List ApplyOutcome) → Except Trap (List ApplyOutcome) :=
  Except.map (List.filter Except.isOk)

/-- What becomes of a block does not depend on candidates that are rejected. -/
theorem Entry.applyEach_interleaved {left right : World} {candidates extrinsics : List Extrinsic}
    (interleaved : Interleaved left candidates extrinsics)
    (same : left.store.visible = right.store.visible) :
    accepted (Action.answer (applyEach candidates) left) =
        accepted (Action.answer (applyEach extrinsics) right) ∧
      (Action.ending (applyEach candidates) left).store.visible =
        (Action.ending (applyEach extrinsics) right).store.visible := by
  have addAlike : ∀ (outcome : ApplyOutcome) (one two : Except Trap (List ApplyOutcome)),
      accepted one = accepted two →
        accepted (one.map (List.cons outcome)) = accepted (two.map (List.cons outcome)) := by
    intro outcome one two alike
    cases one with
    | error cause =>
        cases two with
        | error other => exact alike
        | ok others => cases alike
    | ok outcomes =>
        cases two with
        | error other => cases alike
        | ok others =>
            have filtered : outcomes.filter Except.isOk = others.filter Except.isOk :=
              Except.ok.inj alike
            simp only [accepted, Except.map, List.filter_cons, filtered]
  induction interleaved generalizing right with
  | nil => exact ⟨rfl, same⟩
  | @rejected world after candidate cause candidates extrinsics run rest ih =>
      have unchanged := store_of_rejected run
      rw [← unchanged] at same
      obtain ⟨answers, endings⟩ := ih same
      rw [← answers, ← endings, applyEach_cons, Action.bind_answer, Action.bind_ending,
        Action.answer_of_run run, Action.ending_of_run run]
      dsimp only
      rw [Action.map_answer, Action.map_ending]
      refine ⟨?_, rfl⟩
      cases Action.answer (applyEach candidates) after <;> rfl
  | @shared world extrinsic candidates extrinsics rest ih =>
      obtain ⟨answers, endings⟩ := Entry.applyExtrinsic_again extrinsic same
      rw [applyEach_cons, applyEach_cons, Action.bind_answer, Action.bind_ending,
        Action.bind_answer, Action.bind_ending, answers]
      cases atRight : Action.answer (applyExtrinsic extrinsic) right with
      | error cause => exact ⟨rfl, endings⟩
      | ok outcome =>
          have run := Action.run_of_answer_ok (answers.trans atRight)
          obtain ⟨restAnswers, restEndings⟩ := ih outcome _ run endings
          dsimp only
          rw [Action.map_answer, Action.map_answer, Action.map_ending, Action.map_ending]
          exact ⟨addAlike outcome _ _ restAnswers, restEndings⟩

/-! ### Blocks -/

section

variable {header : Header Number} {extrinsics : List Extrinsic} {world after built : World}

private theorem placed_alike {begun direct inside : World} {number : Number} {parent : Hash}
    (placed : Chain.Placed number parent begun.store)
    (run : chain.applyAll form extrinsics begun = .ok () direct)
    (same : inside.store.visible = direct.store.visible) :
    Chain.Placed number parent direct.store ∧ Chain.Placed number parent inside.store := by
  have spares := (Chain.applyAll_local blocksLocal.extrinsics extrinsics).spares begun
  rw [Action.ending_of_run run] at spares
  have atDirect := placed.spared blocksLocal spares
  refine ⟨atDirect, atDirect.spared blocksLocal fun key _ => ?_⟩
  rw [Store.get?_eq_find?, Store.get?_eq_find?, same]

theorem builds_of_execute (later : Word.isZero header.number = false)
    (run : chain.execute form ⟨header, extrinsics⟩ world = .ok () after) :
    (∃ count, chain.inherentsFirst form extrinsics = .ok count) ∧
      ∃ built, Builds header extrinsics world built ∧
        built.store.visible = after.store.visible := by
  obtain ⟨begun, direct, found, begins, inherents, applies, seals, equal⟩ :=
    Chain.execute_iff.mp run
  obtain ⟨placed, known⟩ := Chain.begin_places blocksLocal begins
  refine ⟨((Chain.checkBeginning_eq_ok ⟨header, extrinsics⟩).mp inherents).2.2, ?_⟩
  obtain ⟨outcomes, inside, authored, allOk, same⟩ := Entry.applyEach_of_applyAll rfl applies
  obtain ⟨atDirect, atInside⟩ := placed_alike placed applies same
  obtain ⟨answers, endings⟩ :=
    (sealing_local header.number).agrees inside direct same
  rw [Action.answer_of_run seals] at answers
  rw [Action.ending_of_run seals] at endings
  obtain ⟨sameNumber, sameParent⟩ := Chain.sealing_places blocksLocal atDirect seals
  obtain ⟨digests, states, roots⟩ := Chain.compareHeaders_eq_ok.mp equal
  have sameHeader : found = header := by
    cases found
    cases header
    simp only at sameNumber sameParent digests states roots
    simp only [sameNumber, sameParent, digests, states, roots]
  rw [sameHeader] at answers
  refine ⟨_, ⟨outcomes, ?_, allOk⟩, endings⟩
  have finishes := Chain.finish_run blocksLocal atInside
  rw [Action.run_of_answer_ok answers] at finishes
  rw [author, begin_draft, Action.bind_run_ok begins, build, Action.bind_run_ok authored,
    Action.bind_run_ok finishes]
  rfl

theorem execute_of_builds (later : Word.isZero header.number = false)
    (inherents : ∃ count, chain.inherentsFirst form extrinsics = .ok count)
    (builds : Builds header extrinsics world built) :
    ∃ after, chain.execute form ⟨header, extrinsics⟩ world = .ok () after ∧
      built.store.visible = after.store.visible := by
  obtain ⟨outcomes, run, allOk⟩ := builds
  unfold author at run
  rw [begin_draft] at run
  obtain ⟨_, begun, begins, fromBeginning⟩ := Action.bind_eq_ok run
  obtain ⟨applied, inside, applies, fromExtrinsics⟩ := Action.bind_eq_ok fromBeginning
  obtain ⟨found, sealed, seals, finished⟩ := Action.bind_eq_ok fromExtrinsics
  cases finished
  obtain ⟨placed, known⟩ := Chain.begin_places blocksLocal begins
  obtain ⟨direct, imported, same⟩ := Entry.applyAll_of_applyEach rfl applies allOk
  obtain ⟨atDirect, atInside⟩ := placed_alike placed imported same
  rw [Chain.finish_run blocksLocal atInside] at seals
  obtain ⟨answers, endings⟩ :=
    (sealing_local header.number).agrees inside direct same
  rw [Action.answer_of_run seals] at answers
  rw [Action.ending_of_run seals] at endings
  refine ⟨_, ?_, endings⟩
  have allowed := (Chain.checkBeginning_eq_ok ⟨header, extrinsics⟩).mpr ⟨later, known, inherents⟩
  have equal : Chain.compareHeaders header header = .ok () :=
    Chain.compareHeaders_eq_ok.mpr ⟨rfl, rfl, rfl⟩
  exact Chain.execute_iff.mpr ⟨begun, direct, header, begins, allowed, imported,
    Action.run_of_answer_ok answers.symm, equal⟩

/-- What is to be seen of a built block: its header, and what became of the candidates that were
not rejected. -/
def shown (found : Header Number × List ApplyOutcome) : Header Number × List ApplyOutcome :=
  (found.1, found.2.filter Except.isOk)

private theorem build_eq (candidates : List Extrinsic) :
    build candidates = Entry.applyEach candidates >>= fun outcomes =>
      (fun header => (header, outcomes)) <$> chain.finish := by
  unfold build
  simp only [map_eq_pure_bind]

theorem build_interleaved {left right : World} {candidates : List Extrinsic}
    (interleaved : Interleaved left candidates extrinsics)
    (same : left.store.visible = right.store.visible) :
    (Action.answer (build candidates) left).map shown =
        (Action.answer (build extrinsics) right).map shown ∧
      (Action.ending (build candidates) left).store.visible =
        (Action.ending (build extrinsics) right).store.visible := by
  obtain ⟨applied, ended⟩ := Entry.applyEach_interleaved interleaved same
  obtain ⟨finishAnswers, finishEndings⟩ := finish_local.agrees _ _ ended
  rw [build_eq, build_eq, Action.bind_answer, Action.bind_ending, Action.bind_answer,
    Action.bind_ending]
  cases atLeft : Action.answer (Entry.applyEach candidates) left with
  | error cause =>
      cases atRight : Action.answer (Entry.applyEach extrinsics) right with
      | error other =>
          rw [atLeft, atRight] at applied
          cases applied
          exact ⟨rfl, ended⟩
      | ok others =>
          rw [atLeft, atRight] at applied
          cases applied
  | ok outcomes =>
      cases atRight : Action.answer (Entry.applyEach extrinsics) right with
      | error other =>
          rw [atLeft, atRight] at applied
          cases applied
      | ok others =>
          rw [atLeft, atRight] at applied
          have filtered : outcomes.filter Except.isOk = others.filter Except.isOk :=
            Except.ok.inj applied
          dsimp only
          rw [Action.map_answer, Action.map_answer, Action.map_ending, Action.map_ending,
            finishAnswers]
          refine ⟨?_, finishEndings⟩
          cases Action.answer chain.finish _ with
          | error cause => rfl
          | ok header => simp only [Except.map, shown, filtered]

theorem author_interleaved {draft : Header Number} {candidates : List Extrinsic}
    (interleaved : ∀ begun, chain.begin draft world = .ok () begun →
      Interleaved begun candidates extrinsics) :
    (Action.answer (author draft candidates) world).map shown =
        (Action.answer (author draft extrinsics) world).map shown ∧
      (Action.ending (author draft candidates) world).store.visible =
        (Action.ending (author draft extrinsics) world).store.visible := by
  have begins : ∀ list, author draft list = chain.begin draft >>= fun _ => build list :=
    fun _ => rfl
  rw [begins, begins, Action.bind_answer, Action.bind_ending, Action.bind_answer,
    Action.bind_ending]
  cases begun : Action.answer (chain.begin draft) world with
  | error cause => exact ⟨rfl, rfl⟩
  | ok beginning =>
      exact build_interleaved (interleaved _ (Action.run_of_answer_ok begun)) rfl

theorem drafted_of_author {draft : Header Number} {outcomes : List ApplyOutcome}
    (answered : (Action.answer (author draft extrinsics) world).map
      (fun found => (found.1.draft, found.2)) = .ok (draft, outcomes))
    (allOk : ∀ outcome ∈ outcomes, outcome.isOk = true) :
    ∃ header built, header.draft = draft ∧ Builds header extrinsics world built := by
  cases found : Action.answer (author draft extrinsics) world with
  | error cause =>
      rw [found] at answered
      cases answered
  | ok answer =>
      obtain ⟨header, ended⟩ := answer
      rw [found] at answered
      obtain ⟨drafted, outcome⟩ := Prod.mk.inj (Except.ok.inj answered)
      dsimp only at drafted outcome
      have run := Action.run_of_answer_ok found
      rw [← drafted, outcome] at run
      exact ⟨header, _, drafted, outcomes, run, allOk⟩

theorem builds_of_author {draft : Header Number} {outcomes : List ApplyOutcome}
    (first : draft.number ≠ 0)
    (answered : (Action.answer (author draft extrinsics) world).map
      (fun found => (found.1.draft, found.2)) = .ok (draft, outcomes))
    (allOk : ∀ outcome ∈ outcomes, outcome.isOk = true) :
    ∃ header built, header.number ≠ 0 ∧ Builds header extrinsics world built := by
  obtain ⟨header, built, drafted, builds⟩ := drafted_of_author answered allOk
  refine ⟨header, built, ?_, builds⟩
  rw [← drafted] at first
  exact first

/-- An importer accepts a block with a header exactly if the inherents come first and an author
builds a block with this very header; then both end in the same state. Candidates that are rejected
change nothing about it. -/
theorem execute_iff_builds (header : Header Number) (extrinsics : List Extrinsic) (world : World)
    (later : header.number ≠ 0) :
    ((∃ after, chain.execute form ⟨header, extrinsics⟩ world = .ok () after) ↔
      (∃ count, chain.inherentsFirst form extrinsics = .ok count) ∧
        ∃ built, Builds header extrinsics world built) ∧
    (∀ after built, chain.execute form ⟨header, extrinsics⟩ world = .ok () after →
      Builds header extrinsics world built → built.store.visible = after.store.visible) ∧
    (∀ candidates, (∀ begun, chain.begin header.draft world = .ok () begun →
        Interleaved begun candidates extrinsics) →
      (Action.answer (author header.draft candidates) world).map shown =
          (Action.answer (author header.draft extrinsics) world).map shown ∧
        (Action.ending (author header.draft candidates) world).store.visible =
          (Action.ending (author header.draft extrinsics) world).store.visible) := by
  have positive : Word.isZero header.number = false := by
    have notZero : header.number.toNat ≠ 0 := fun zero => later (UInt32.toNat_inj.mp zero)
    exact beq_eq_false_iff_ne.mpr notZero
  refine ⟨⟨?_, ?_⟩, ?_, fun candidates => author_interleaved⟩
  · rintro ⟨after, run⟩
    obtain ⟨inherents, built, builds, _⟩ := builds_of_execute positive run
    exact ⟨inherents, built, builds⟩
  · rintro ⟨inherents, built, builds⟩
    obtain ⟨after, run, _⟩ := execute_of_builds positive inherents builds
    exact ⟨after, run⟩
  · intro after built run builds
    obtain ⟨_, other, others, same⟩ := builds_of_execute positive run
    obtain ⟨outcomes, atBuilt, _⟩ := builds
    obtain ⟨otherOutcomes, atOther, _⟩ := others
    rw [atBuilt] at atOther
    cases atOther
    exact same

/-- The first block of a chain, which tells the time and does nothing else, is accepted with the
header that its author found. -/
theorem execute_iff_builds_first_block :
    ∃ (header : Header Number) (after : World), header.number ≠ 0 ∧
      chain.execute form ⟨header, [⟨none, .timestamp (.set 1000)⟩]⟩ ⟨.empty, []⟩ =
        .ok () after := by
  have built : (Action.answer (author (Header.blank 1) [⟨none, .timestamp (.set 1000)⟩])
      ⟨.empty, []⟩).map (fun found => (found.1.draft, found.2)) =
      .ok (Header.blank 1, [.ok (.ok ())]) := by decide +kernel
  obtain ⟨header, ended, first, builds⟩ := builds_of_author (by decide) built
    (List.forall_mem_singleton.mpr rfl)
  have inherents : ∃ count, chain.inherentsFirst form [⟨none, .timestamp (.set 1000)⟩] =
      .ok count := ⟨1, by decide⟩
  obtain ⟨after, executes⟩ := (execute_iff_builds header _ _ first).1.mpr
    ⟨inherents, ended, builds⟩
  exact ⟨header, after, first, executes⟩

end

end Testnet

end StateTransition
