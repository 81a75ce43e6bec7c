import StateTransition.Proofs.Chain.Block
import StateTransition.Proofs.Testnet.Nonce

set_option autoImplicit false

/-! No transaction is accepted twice while its signer has a record. The host calls the network by the
names of its entry points, in any order and with any input; a call that traps leaves nothing. Every
call is cut into passages, of which each accepts one extrinsic or none, and what is known of the
nonces in one passage is followed through all passages of a run. -/

namespace StateTransition.Testnet

/-! ### Calls by the host -/

/-- A call of an entry point, in the world in which it is made. -/
structure Request where
  name : String
  input : Bytes
  before : World

/-- The extrinsics that a call has accepted by its answer: all of a block that was imported, or one
whose outcome is not a rejection. -/
def acceptances (name : String) (input answer : Bytes) : List Extrinsic :=
  if name = "Core_execute_block" then
    match blockCodec.decodeAll input with
    | .ok block => block.extrinsics
    | .error _ => []
  else if name = "BlockBuilder_apply_extrinsic" then
    match form.codec.decodeAll input with
    | .ok extrinsic => if answer.head? = some 0 then [extrinsic] else []
    | .error _ => []
  else []

namespace Request

variable (request : Request)

def body : Action (Except EntryError Bytes) := Entry.call request.name request.input

def outcome : Except Trap (Except EntryError Bytes) := Action.answer request.body request.before

/-- The world after a call. What a call did that traps is thrown away. -/
def after : World :=
  match request.outcome with
  | .ok _ => Action.ending request.body request.before
  | .error _ => request.before

def accepted : List Extrinsic :=
  match request.outcome with
  | .ok (.ok answer) => acceptances request.name request.input answer
  | _ => []

end Request

/-- Calls one after the other. Between two calls the host may do anything with the layers of the
store that cannot be seen. -/
def Run : Store → List Request → Prop
  | _, [] => True
  | store, request :: later =>
      request.before.store.visible = store.visible ∧ Run request.after.store later

/-! ### Passages -/

/-- What happens at once on the network, with the extrinsic that is accepted by it. -/
inductive Move : Option Extrinsic → World → World → Prop where
  | begins {header : Header Number} {before after : World}
      (run : chain.begin header before = .ok () after) : Move none before after
  | includes {extrinsic : Extrinsic} {result : Except DispatchError Unit} {before after : World}
      (run : (chain.applyExtrinsic form extrinsic).run before = .ok (.ok result) after) :
      Move (some extrinsic) before after
  | applies {extrinsic : Extrinsic} {result : Except DispatchError Unit} {before after : World}
      (run : Entry.applyExtrinsic extrinsic before = .ok (.ok result) after) :
      Move (some extrinsic) before after
  | seals {number : Number} {header : Header Number} {before after : World}
      (run : chain.sealing number before = .ok header after) : Move none before after
  | finishes {header : Header Number} {before after : World}
      (run : chain.finish before = .ok header after) : Move none before after
  | validates {source : TransactionSource} {extrinsic : Extrinsic} {current : Hash}
      {verdict : Validity} {before after : World}
      (run : chain.validateTransaction form source extrinsic current before = .ok verdict after) :
      Move none before after

structure Passage where
  accepted? : Option Extrinsic
  before : Store
  after : Store

inductive Trail : Store → List Passage → Store → Prop where
  | rests {before after : Store} (same : after.visible = before.visible) : Trail before [] after
  | passes {before after : Store} {accepted? : Option Extrinsic} {begun ended : World}
      {passages : List Passage} (same : begun.store.visible = before.visible)
      (move : Move accepted? begun ended) (rest : Trail ended.store passages after) :
      Trail before (⟨accepted?, begun.store, ended.store⟩ :: passages) after

/-- A call goes through some passages, and has accepted what they have. -/
structure Request.Traces (request : Request) (passages : List Passage) : Prop where
  trail : Trail request.before.store passages request.after.store
  accepts : passages.filterMap (·.accepted?) = request.accepted

namespace Trail

private theorem from_visible {first second last : Store} {passages : List Passage}
    (trail : Trail second passages last) (same : second.visible = first.visible) :
    Trail first passages last := by
  cases trail with
  | rests rests => exact .rests (rests.trans same)
  | passes begins move rest => exact .passes (begins.trans same) move rest

theorem append {first second third : Store} {earlier later : List Passage}
    (ofEarlier : Trail first earlier second) (ofLater : Trail second later third) :
    Trail first (earlier ++ later) third := by
  induction ofEarlier with
  | rests same => exact ofLater.from_visible same
  | passes same move _ ih => exact .passes same move (ih ofLater)

theorem split {first third : Store} {earlier later : List Passage}
    (trail : Trail first (earlier ++ later) third) :
    ∃ second, Trail first earlier second ∧ Trail second later third := by
  induction earlier generalizing first with
  | nil => exact ⟨first, .rests rfl, trail⟩
  | cons passage others ih =>
      cases trail with
      | passes same move rest =>
          obtain ⟨second, ofOthers, ofLater⟩ := ih rest
          exact ⟨second, .passes same move ofOthers, ofLater⟩

private theorem of_move {accepted? : Option Extrinsic} {before after : World}
    (move : Move accepted? before after) :
    Trail before.store [⟨accepted?, before.store, after.store⟩] after.store :=
  .passes rfl move (.rests rfl)

end Trail

/-! ### The passages of a call -/

private theorem trail_of_applyAll {extrinsics : List Extrinsic} {before after : World}
    (run : chain.applyAll form extrinsics before = .ok () after) :
    ∃ passages, Trail before.store passages after.store ∧
      passages.filterMap (·.accepted?) = extrinsics := by
  induction extrinsics generalizing before with
  | nil =>
      cases run
      exact ⟨[], .rests rfl, rfl⟩
  | cons first others ih =>
      obtain ⟨result, middle, atFirst, atOthers⟩ := Chain.applyAll_cons_iff.mp run
      obtain ⟨passages, trail, accepts⟩ := ih atOthers
      exact ⟨_, (Trail.of_move (.includes atFirst)).append trail, congrArg (first :: ·) accepts⟩

theorem trail_of_execute {block : Block Number Extrinsic} {before after : World}
    (run : chain.execute form block before = .ok () after) :
    ∃ passages, Trail before.store passages after.store ∧
      passages.filterMap (·.accepted?) = block.extrinsics := by
  obtain ⟨header, extrinsics⟩ := block
  obtain ⟨begun, applied, found, begins, _, applies, seals, _⟩ := Chain.execute_iff.mp run
  obtain ⟨passages, trail, accepts⟩ := trail_of_applyAll applies
  refine ⟨_, (Trail.of_move (.begins begins)).append (trail.append (Trail.of_move (.seals seals))),
    ?_⟩
  rw [List.filterMap_append, List.filterMap_append, accepts]
  exact List.append_nil extrinsics

/-- An entry point refuses its input and does nothing, or goes through passages. -/
def Passes (name : String) (method : Bytes → Action (Except CodecError Bytes)) : Prop :=
  ∀ (input : Bytes) (world after : World) (found : Except CodecError Bytes),
    method input world = .ok found after →
      (∃ cause, found = .error cause) ∧ after = world ∨
        ∃ answer passages, found = .ok answer ∧ Trail world.store passages after.store ∧
          passages.filterMap (·.accepted?) = acceptances name input answer

section

variable {α β : Type} {name : String} {arguments : Codec α} {answer : Codec β}

private theorem acceptances_other (notImport : name ≠ "Core_execute_block")
    (notApply : name ≠ "BlockBuilder_apply_extrinsic") (input answer : Bytes) :
    acceptances name input answer = [] := by
  unfold acceptances
  rw [if_neg notImport, if_neg notApply]

private theorem passes_taking {run : α → Action β}
    (body : ∀ input given world value after, arguments.decodeAll input = .ok given →
      run given world = .ok value after →
      ∃ passages, Trail world.store passages after.store ∧
        passages.filterMap (·.accepted?) = acceptances name input (answer.encode value)) :
    Passes name (Entry.taking arguments answer run) := by
  intro input world after found ran
  cases decoded : arguments.decodeAll input with
  | error cause =>
      rw [Entry.taking_of_error run decoded] at ran
      cases ran
      exact Or.inl ⟨⟨cause, rfl⟩, rfl⟩
  | ok given =>
      rw [Entry.taking_of_ok run decoded] at ran
      obtain ⟨value, runs, rfl⟩ := Action.map_eq_ok ran
      obtain ⟨passages, trail, accepts⟩ := body input given world value after decoded runs
      exact Or.inr ⟨_, passages, rfl, trail, accepts⟩

private theorem passes_other {run : α → Action β} (notImport : name ≠ "Core_execute_block")
    (notApply : name ≠ "BlockBuilder_apply_extrinsic")
    (body : ∀ given world value after, run given world = .ok value after →
      ∃ passages, Trail world.store passages after.store ∧
        passages.filterMap (·.accepted?) = []) :
    Passes name (Entry.taking arguments answer run) := by
  apply passes_taking
  intro input given world value after _ ran
  rw [acceptances_other notImport notApply]
  exact body given world value after ran

private theorem passes_ignoring {run : Action β} (notImport : name ≠ "Core_execute_block")
    (notApply : name ≠ "BlockBuilder_apply_extrinsic")
    (body : ∀ world value after, run world = .ok value after →
      ∃ passages, Trail world.store passages after.store ∧
        passages.filterMap (·.accepted?) = []) :
    Passes name (Entry.ignoring answer run) := by
  intro input world after found ran
  obtain ⟨value, _, runs, answers⟩ := Action.bind_eq_ok ran
  cases answers
  obtain ⟨passages, trail, accepts⟩ := body world value _ runs
  refine Or.inr ⟨_, passages, rfl, trail, ?_⟩
  rw [acceptances_other notImport notApply]
  exact accepts

private theorem trail_of_look {view : Store → α} {world after : World} {value : α}
    (run : Action.look view world = .ok value after) :
    ∃ passages, Trail world.store passages after.store ∧
      passages.filterMap (·.accepted?) = [] := by
  cases run
  exact ⟨[], .rests rfl, rfl⟩

private theorem trail_of_ask {query : Query α} {world after : World} {value : α}
    (run : Action.ask query world = .ok value after) :
    ∃ passages, Trail world.store passages after.store ∧
      passages.filterMap (·.accepted?) = [] := by
  obtain ⟨_, rfl⟩ := Action.ask_eq_ok run
  exact ⟨[], .rests rfl, rfl⟩

private theorem trail_of_quiet {before after : World} (move : Move none before after) :
    ∃ passages, Trail before.store passages after.store ∧
      passages.filterMap (·.accepted?) = [] :=
  ⟨_, Trail.of_move move, rfl⟩

end

private theorem passes_execute :
    Passes "Core_execute_block" (Entry.taking blockCodec .unit (chain.execute form)) := by
  apply passes_taking
  intro input block world value after decoded run
  obtain ⟨passages, trail, accepts⟩ := trail_of_execute run
  refine ⟨passages, trail, ?_⟩
  unfold acceptances
  rw [if_pos rfl, decoded]
  exact accepts

private theorem passes_apply : Passes "BlockBuilder_apply_extrinsic"
    (Entry.taking form.codec ApplyOutcome.codec Entry.applyExtrinsic) := by
  apply passes_taking
  intro input extrinsic world outcome after decoded run
  unfold acceptances
  rw [if_neg (by decide), if_pos rfl, decoded]
  cases outcome with
  | ok result => exact ⟨_, Trail.of_move (.applies run), rfl⟩
  | error cause =>
      have unchanged := Entry.store_of_rejected run
      exact ⟨[], .rests (congrArg Store.visible unchanged), rfl⟩

private theorem methods_pass : ∀ entry ∈ Entry.methods, Passes entry.1 entry.2 := by
  unfold Entry.methods
  simp only [List.forall_mem_cons, List.not_mem_nil, false_implies, implies_true, and_true]
  refine ⟨?_, ?_, passes_execute, passes_apply, ?_, ?_, ?_, ?_, ?_, ?_, ?_, ?_⟩
  · apply passes_ignoring (by decide) (by decide)
    intro world value after run
    cases run
    exact ⟨[], .rests rfl, rfl⟩
  · exact passes_other (by decide) (by decide) fun _ _ _ _ run => trail_of_quiet (.begins run)
  · exact passes_ignoring (by decide) (by decide) fun _ _ _ run => trail_of_quiet (.finishes run)
  · exact passes_other (by decide) (by decide) fun _ _ _ _ run => trail_of_ask run
  · exact passes_other (by decide) (by decide) fun _ _ _ _ run => trail_of_ask run
  · exact passes_other (by decide) (by decide) fun _ _ _ _ run => trail_of_quiet (.validates run)
  · exact passes_other (by decide) (by decide) fun _ _ _ _ run => trail_of_look run
  · exact passes_other (by decide) (by decide) fun _ _ _ _ run => trail_of_look run
  · exact passes_other (by decide) (by decide) fun _ _ _ _ run => trail_of_look run
  · exact passes_other (by decide) (by decide) fun _ _ _ _ run => trail_of_look run

theorem Entry.call_cases {name : String} {input : Bytes} {world after : World}
    {answer : Except EntryError Bytes} (run : Entry.call name input world = .ok answer after) :
    (∃ cause, answer = .error cause) ∧ after = world ∨
      ∃ method found, (name, method) ∈ Entry.methods ∧ method input world = .ok found after ∧
        answer = found.mapError .badInput := by
  rcases Entry.call_run name input with ⟨_, unknown⟩ | ⟨method, member, calls⟩
  · rw [unknown] at run
    cases run
    exact Or.inl ⟨⟨_, rfl⟩, rfl⟩
  · rw [calls] at run
    obtain ⟨found, ran, answers⟩ := Action.map_eq_ok run
    exact Or.inr ⟨method, found, member, ran, answers⟩

private theorem trail_of_call {name : String} {input : Bytes} {world after : World}
    {answer : Except EntryError Bytes} (run : Entry.call name input world = .ok answer after) :
    (∃ cause, answer = .error cause) ∧ after = world ∨
      ∃ output passages, answer = .ok output ∧ Trail world.store passages after.store ∧
        passages.filterMap (·.accepted?) = acceptances name input output := by
  rcases Entry.call_cases run with unknown | ⟨method, found, member, ran, rfl⟩
  · exact Or.inl unknown
  · rcases methods_pass _ member input world after found ran with
      ⟨⟨cause, rfl⟩, rfl⟩ | ⟨output, passages, rfl, trail, accepts⟩
    · exact Or.inl ⟨⟨_, rfl⟩, rfl⟩
    · exact Or.inr ⟨output, passages, rfl, trail, accepts⟩

theorem Request.exists_traces (request : Request) : ∃ passages, request.Traces passages := by
  cases answered : request.outcome with
  | error trap =>
      have same : request.after = request.before := by rw [after, answered]
      have nothing : request.accepted = [] := by rw [accepted, answered]
      refine ⟨[], .rests (congrArg (·.store.visible) same), nothing.symm⟩
  | ok answer =>
      have ends : request.after = Action.ending request.body request.before := by
        rw [after, answered]
      have run : Entry.call request.name request.input request.before =
          .ok answer request.after := by
        rw [ends]
        exact Action.run_of_answer_ok answered
      rcases trail_of_call run with
        ⟨⟨cause, rfl⟩, same⟩ | ⟨output, passages, rfl, trail, accepts⟩
      · have nothing : request.accepted = [] := by rw [accepted, answered]
        exact ⟨[], .rests (congrArg (·.store.visible) same), nothing.symm⟩
      · refine ⟨passages, trail, ?_⟩
        rw [accepts, accepted, answered]

/-! ### Nonces in a passage -/

namespace Passage

def Reaps (who : AccountId) (passage : Passage) : Prop :=
  ∃ extrinsic, passage.accepted? = some extrinsic ∧
    Testnet.Reaps extrinsic who passage.before passage.after

/-- A nonce is spent by an extrinsic of its account and by nothing else. -/
structure Counts (who : AccountId) (passage : Passage) : Prop where
  spends : ∀ extrinsic, passage.accepted? = some extrinsic → signer? extrinsic = some who →
    Spends extrinsic who passage.before passage.after
  keeps : (∀ extrinsic, passage.accepted? = some extrinsic → signer? extrinsic ≠ some who) →
    rules.nonce who passage.after = rules.nonce who passage.before

variable {who : AccountId} {passage : Passage}

private theorem counts_of_same {before after : Store} (same : SameBooks before after) :
    Counts who ⟨none, before, after⟩ where
  spends _ impossible := by cases impossible
  keeps _ := Rules.nonce_same same who

private theorem counts_of_nonces {extrinsic : Extrinsic} {before after : Store}
    (nonces : (signer? extrinsic = some who → Spends extrinsic who before after) ∧
      (signer? extrinsic ≠ some who → rules.nonce who after = rules.nonce who before)) :
    Counts who ⟨some extrinsic, before, after⟩ where
  spends other accepts signed := by
    cases accepts
    exact nonces.1 signed
  keeps others := nonces.2 (others extrinsic rfl)

private theorem Counts.nonce_lt (counts : passage.Counts who) (lives : ¬passage.Reaps who)
    {extrinsic : Extrinsic} (accepts : passage.accepted? = some extrinsic)
    (signed : signer? extrinsic = some who) :
    rules.nonce who passage.before < rules.nonce who passage.after := by
  rcases (counts.spends extrinsic accepts signed).used with next | reaps
  · rw [UInt32.lt_iff_toNat_lt, next]
    exact Nat.lt_succ_self _
  · exact absurd ⟨extrinsic, accepts, reaps⟩ lives

private theorem Counts.nonce_le (counts : passage.Counts who) (lives : ¬passage.Reaps who) :
    rules.nonce who passage.before ≤ rules.nonce who passage.after := by
  by_cases sent : ∃ extrinsic, passage.accepted? = some extrinsic ∧ signer? extrinsic = some who
  · obtain ⟨extrinsic, accepts, signed⟩ := sent
    exact UInt32.le_of_lt (counts.nonce_lt lives accepts signed)
  · rw [counts.keeps fun extrinsic accepts signed => sent ⟨extrinsic, accepts, signed⟩]
    exact UInt32.le_refl _

end Passage

private theorem recorded_same {before after : Store} (same : SameBooks before after)
    (who : AccountId) : Recorded who after ↔ Recorded who before := by
  have there : after.get? (rules.accountSlot who).key = before.get? (rules.accountSlot who).key :=
    same _ (Item.under_row .account (by decide) rfl who)
  rw [Recorded, Recorded, Slot.exists?_congr _ there]

theorem Spends.same {extrinsic : Extrinsic} {who : AccountId} {first second third last : Store}
    (spends : Spends extrinsic who second third) (earlier : SameBooks first second)
    (later : SameBooks third last) : Spends extrinsic who first last := by
  obtain ⟨⟨signature, signs, next⟩, used⟩ := spends
  rw [Rules.nonce_same earlier] at next
  refine ⟨⟨signature, signs, next⟩, ?_⟩
  rw [Rules.nonce_same later, ← Rules.nonce_same earlier]
  refine used.imp id fun reaps => ⟨reaps.signed, reaps.call, ?_, ?_⟩
  · exact (recorded_same earlier who).mp reaps.recorded
  · exact fun recorded => reaps.gone ((recorded_same later who).mp recorded)

theorem Move.counts {accepted? : Option Extrinsic} {before after : World}
    (move : Move accepted? before after) (orderly : rules.Orderly before.store) :
    rules.Orderly after.store ∧
      ∀ who, Passage.Counts who ⟨accepted?, before.store, after.store⟩ := by
  have untouched : SameBooks before.store after.store → rules.Orderly after.store ∧
      ∀ who, Passage.Counts who ⟨none, before.store, after.store⟩ := fun same =>
    ⟨orderly.same same, fun _ => Passage.counts_of_same same⟩
  cases move with
  | begins run => exact untouched (begin_same run)
  | seals run => exact untouched (sealing_same run)
  | finishes run => exact untouched (finish_same run)
  | validates run => exact untouched (validateTransaction_same run)
  | includes run =>
      obtain ⟨_, _, ⟨included⟩⟩ := included_of_run run
      obtain ⟨tidy, nonces⟩ := included.nonces orderly
      exact ⟨tidy, fun who => Passage.counts_of_nonces (nonces who)⟩
  | applies run =>
      obtain ⟨ended, ran, looks, _⟩ := Entry.included_run run
      obtain ⟨_, _, ⟨included⟩⟩ := included_of_run ran
      have opening : SameBooks before.store before.layered.store :=
        same_of_visible (Store.visible_openLayer before.store)
      have closing : SameBooks ended.store after.store := same_of_visible looks
      obtain ⟨tidy, nonces⟩ := included.nonces (orderly.same opening)
      refine ⟨tidy.same closing, fun who => Passage.counts_of_nonces ⟨fun signed => ?_, ?_⟩⟩
      · exact ((nonces who).1 signed).same opening closing
      · intro different
        rw [Rules.nonce_same closing, (nonces who).2 different, Rules.nonce_same opening]

/-! ### Nonces in a run -/

def noncesOf (who : AccountId) (passages : List Passage) : List Number :=
  passages.flatMap fun passage => [rules.nonce who passage.before, rules.nonce who passage.after]

def acceptedOf (who : AccountId) (passages : List Passage) : List Extrinsic :=
  (passages.filterMap (·.accepted?)).filter fun extrinsic => signer? extrinsic = some who

namespace Trail

variable {before after : Store} {passages : List Passage} {who : AccountId}

theorem counts (trail : Trail before passages after) (orderly : rules.Orderly before) :
    ∀ passage ∈ passages, ∀ who, passage.Counts who := by
  induction trail with
  | rests same => exact fun _ member => absurd member List.not_mem_nil
  | passes same move _ ih =>
      obtain ⟨tidy, counts⟩ := move.counts (orderly.same (same_of_visible same))
      exact List.forall_mem_cons.mpr ⟨counts, ih tidy⟩

/-- While an account lives its nonce is never lower than it was at first. -/
theorem floor (trail : Trail before passages after)
    (counts : ∀ passage ∈ passages, passage.Counts who)
    (lives : ∀ passage ∈ passages, ¬passage.Reaps who) :
    (∀ nonce ∈ noncesOf who passages, rules.nonce who before ≤ nonce) ∧
      rules.nonce who before ≤ rules.nonce who after := by
  induction trail with
  | rests same =>
      refine ⟨fun _ member => absurd member List.not_mem_nil, ?_⟩
      rw [Rules.nonce_same (same_of_visible same)]
      exact UInt32.le_refl _
  | passes same move _ ih =>
      obtain ⟨first, others⟩ := List.forall_mem_cons.mp counts
      obtain ⟨firstLives, othersLive⟩ := List.forall_mem_cons.mp lives
      obtain ⟨later, last⟩ := ih others othersLive
      have step := first.nonce_le firstLives
      rw [Rules.nonce_same (same_of_visible same)] at step
      refine ⟨?_, UInt32.le_trans step last⟩
      intro nonce member
      rcases List.mem_append.mp member with here | there
      · rcases List.mem_cons.mp here with rfl | here
        · rw [Rules.nonce_same (same_of_visible same)]
          exact UInt32.le_refl _
        · cases List.mem_singleton.mp here
          exact step
      · exact UInt32.le_trans step (later nonce there)

theorem nonces_ascend (trail : Trail before passages after)
    (counts : ∀ passage ∈ passages, passage.Counts who)
    (lives : ∀ passage ∈ passages, ¬passage.Reaps who) :
    (noncesOf who passages).Pairwise (· ≤ ·) := by
  induction trail with
  | rests same => exact List.Pairwise.nil
  | passes same move rest ih =>
      obtain ⟨first, others⟩ := List.forall_mem_cons.mp counts
      obtain ⟨firstLives, othersLive⟩ := List.forall_mem_cons.mp lives
      have step := first.nonce_le firstLives
      have later := (rest.floor others othersLive).1
      refine List.Pairwise.cons ?_ (List.Pairwise.cons later (ih others othersLive))
      intro nonce member
      rcases List.mem_cons.mp member with rfl | there
      · exact step
      · exact UInt32.le_trans step (later nonce there)

omit after in
theorem nonce_of_accepted (counts : ∀ passage ∈ passages, passage.Counts who)
    {extrinsic : Extrinsic} (member : extrinsic ∈ acceptedOf who passages) :
    ∃ signature, extrinsic.signature = some signature ∧
      signature.terms.nonce ∈ noncesOf who passages := by
  obtain ⟨accepted, signed⟩ := List.mem_filter.mp member
  obtain ⟨passage, among, accepts⟩ := List.mem_filterMap.mp accepted
  obtain ⟨signature, signs, next⟩ :=
    ((counts passage among).spends extrinsic accepts (of_decide_eq_true signed)).next
  refine ⟨signature, signs, List.mem_flatMap.mpr ⟨passage, among, ?_⟩⟩
  rw [next]
  exact List.mem_cons_self

theorem accepted_once (trail : Trail before passages after)
    (counts : ∀ passage ∈ passages, passage.Counts who)
    (lives : ∀ passage ∈ passages, ¬passage.Reaps who) : (acceptedOf who passages).Nodup := by
  induction trail with
  | rests same => exact List.nodup_nil
  | @passes before after accepted? begun ended passages same move rest ih =>
      obtain ⟨first, others⟩ := List.forall_mem_cons.mp counts
      obtain ⟨firstLives, othersLive⟩ := List.forall_mem_cons.mp lives
      have once := ih others othersLive
      cases accepted? with
      | none => exact once
      | some extrinsic =>
          by_cases signed : signer? extrinsic = some who
          · have split : acceptedOf who (⟨some extrinsic, begun.store, ended.store⟩ :: passages) =
                extrinsic :: acceptedOf who passages :=
              List.filter_cons_of_pos (decide_eq_true signed)
            rw [split]
            refine List.nodup_cons.mpr ⟨fun again => ?_, once⟩
            obtain ⟨signature, signs, next⟩ := (first.spends extrinsic rfl signed).next
            obtain ⟨other, same, later⟩ := nonce_of_accepted others again
            rw [signs] at same
            cases same
            have grows := first.nonce_lt firstLives rfl signed
            have above := (rest.floor others othersLive).1 _ later
            rw [next] at above
            exact UInt32.not_lt.mpr above grows
          · have split : acceptedOf who (⟨some extrinsic, begun.store, ended.store⟩ :: passages) =
                acceptedOf who passages :=
              List.filter_cons_of_neg fun among => signed (of_decide_eq_true among)
            rw [split]
            exact once

end Trail

/-- How the nonce of an account guards against replay. It is spent by extrinsics of the account and by
nothing else; while there is a record of the account it only ascends and no extrinsic of the account
is accepted twice; and where one is, the account was reaped in between by an extrinsic of its own. -/
structure Guarded (who : AccountId) (passages : List Passage) : Prop where
  counts : ∀ passage ∈ passages, passage.Counts who
  ascends : ∀ earlier segment later, passages = earlier ++ segment ++ later →
    (∀ passage ∈ segment, Recorded who passage.before ∧ Recorded who passage.after) →
    (noncesOf who segment).Pairwise (· ≤ ·) ∧ (acceptedOf who segment).Nodup
  repeats : ∀ earlier first between second later extrinsic,
    passages = earlier ++ first :: between ++ second :: later →
    first.accepted? = some extrinsic → second.accepted? = some extrinsic →
    signer? extrinsic = some who → ∃ passage ∈ first :: between, passage.Reaps who

/-- An account that lives from the one to the other does not get the same extrinsic accepted again. -/
theorem Trail.reaped_between {before after : Store} {between later : List Passage}
    {first second : Passage} {who : AccountId} {extrinsic : Extrinsic}
    (trail : Trail before (first :: between ++ second :: later) after)
    (counts : ∀ passage ∈ first :: between ++ second :: later, passage.Counts who)
    (acceptsFirst : first.accepted? = some extrinsic)
    (acceptsSecond : second.accepted? = some extrinsic) (signed : signer? extrinsic = some who) :
    ∃ passage ∈ first :: between, passage.Reaps who := by
  by_cases reaped : ∃ passage ∈ first :: between, passage.Reaps who
  · exact reaped
  have lives : ∀ passage ∈ first :: between, ¬passage.Reaps who := fun passage member reaps =>
    reaped ⟨passage, member, reaps⟩
  obtain ⟨firstLives, othersLive⟩ := List.forall_mem_cons.mp lives
  obtain ⟨ofFirst, ofSecond⟩ := List.forall_mem_append.mp counts
  obtain ⟨firstCounts, othersCount⟩ := List.forall_mem_cons.mp ofFirst
  obtain ⟨signature, signs, next⟩ := (firstCounts.spends extrinsic acceptsFirst signed).next
  obtain ⟨other, signsAgain, nextAgain⟩ :=
    ((ofSecond second List.mem_cons_self).spends extrinsic acceptsSecond signed).next
  rw [signs] at signsAgain
  cases signsAgain
  have grows := firstCounts.nonce_lt firstLives acceptsFirst signed
  obtain ⟨_, ofSegment, fromSecond⟩ := trail.split
  cases ofSegment with
  | passes _ _ rest =>
      cases fromSecond with
      | passes same _ _ =>
          have above := (rest.floor othersCount othersLive).2
          rw [← Rules.nonce_same (same_of_visible same), ← nextAgain, next] at above
          exact absurd grows (UInt32.not_lt.mpr above)

theorem Trail.guarded {before after : Store} {passages : List Passage}
    (trail : Trail before passages after) (orderly : rules.Orderly before) (who : AccountId) :
    Guarded who passages := by
  have counts : ∀ passage ∈ passages, passage.Counts who := fun passage member =>
    trail.counts orderly passage member who
  refine ⟨counts, ?_, ?_⟩
  · rintro earlier segment later rfl recorded
    obtain ⟨_, upTo, _⟩ := trail.split
    obtain ⟨_, _, ofSegment⟩ := upTo.split
    have counted : ∀ passage ∈ segment, passage.Counts who := fun passage member =>
      counts passage (List.mem_append_left _ (List.mem_append_right _ member))
    have lives : ∀ passage ∈ segment, ¬passage.Reaps who := by
      rintro passage member ⟨_, _, reaps⟩
      exact reaps.gone (recorded passage member).2
    exact ⟨ofSegment.nonces_ascend counted lives, ofSegment.accepted_once counted lives⟩
  · rintro earlier first between second later extrinsic rfl acceptsFirst acceptsSecond signed
    rw [List.append_assoc] at trail counts
    obtain ⟨_, _, fromFirst⟩ := trail.split
    exact fromFirst.reaped_between (List.forall_mem_append.mp counts).2 acceptsFirst
      acceptsSecond signed

theorem trail_of_run {start : Store} {requests : List Request} {trail : Request → List Passage}
    (run : Run start requests)
    (traces : ∀ request ∈ requests, request.Traces (trail request)) :
    ∃ final, Trail start (requests.flatMap trail) final := by
  induction requests generalizing start with
  | nil => exact ⟨start, .rests rfl⟩
  | cons request later ih =>
      obtain ⟨same, runs⟩ := run
      obtain ⟨first, others⟩ := List.forall_mem_cons.mp traces
      obtain ⟨final, rest⟩ := ih runs others
      exact ⟨final, (first.trail.from_visible same).append rest⟩

/-- Whatever the host calls from the genesis on, every call is made of passages that accept what it
has accepted, and through all of them the nonce of every account guards against replay. -/
theorem nonces_of_run (genesis : Genesis) (start : Store) (requests : List Request)
    (begun : genesis.state = .ok start) (run : Run start requests) :
    (∀ request ∈ requests, ∃ passages, request.Traces passages) ∧
      ∀ trail : Request → List Passage,
        (∀ request ∈ requests, request.Traces (trail request)) →
        ∀ who, Guarded who (requests.flatMap trail) := by
  refine ⟨fun request _ => request.exists_traces, ?_⟩
  intro trail traces who
  obtain ⟨_, whole⟩ := trail_of_run run traces
  exact whole.guarded (Genesis.state_orderly begun) who

/-- A remark is accepted once and then rejected, and its signer gives away all that is left to it. Its
signatures are ones by the neutral point of the curve, which proves any message. -/
theorem nonces_of_run_reaped :
    ∃ (genesis : Genesis) (start : Store) (requests : List Request) (who : AccountId)
      (remark transfer : Extrinsic),
      genesis.state = .ok start ∧ Run start requests ∧
      requests.map Request.accepted = [[], [remark], [], [transfer]] ∧
      requests.map (fun request => (rules.accountSlot who).exists? request.after.store) =
        [true, true, true, false] ∧
      (∀ request ∈ requests, ∃ passages, request.Traces passages) ∧
      ∀ trail : Request → List Passage,
        (∀ request ∈ requests, request.Traces (trail request)) →
        Guarded who (requests.flatMap trail) := by
  let who : AccountId := ⟨1 :: List.replicate 31 0, rfl⟩
  let proof : Octets 64 := ⟨1 :: List.replicate 63 0, rfl⟩
  let remark : Extrinsic := ⟨some ⟨.id who, proof, ⟨.immortal, 0, 0⟩⟩, .system (.remark [])⟩
  let transfer : Extrinsic := ⟨some ⟨.id who, proof, ⟨.immortal, 1, 0⟩⟩,
    .balances (.transferAllowDeath (.id (.filled 32 2)) 999999611208748)⟩
  let genesis : Genesis := ⟨[(who, 1000000000000000)], .one⟩
  let endowed := Action.ending (rules.begin genesis) ⟨.empty, []⟩
  let start : Store := endowed.store.flatten
  let applying (extrinsic : Extrinsic) (before : World) : Request :=
    ⟨"BlockBuilder_apply_extrinsic", form.codec.encode extrinsic, before⟩
  let beginning : Request :=
    ⟨"Core_initialize_block", headerCodec.encode (Header.blank 1), ⟨start, []⟩⟩
  let first := applying remark beginning.after
  let second := applying remark first.after
  let last := applying transfer second.after
  have endows : rules.begin genesis ⟨.empty, []⟩ = .ok (.ok ()) endowed :=
    Action.run_of_answer_ok (by decide +kernel)
  have begun : genesis.state = .ok start := by
    unfold Genesis.state
    rw [endows]
  have run : Run start [beginning, first, second, last] := ⟨rfl, rfl, rfl, rfl, trivial⟩
  have accepted : [beginning, first, second, last].map Request.accepted =
        [[], [remark], [], [transfer]] ∧
      [beginning, first, second, last].map
        (fun request => (rules.accountSlot who).exists? request.after.store) =
        [true, true, true, false] := by decide +kernel
  obtain ⟨traces, guarded⟩ := nonces_of_run genesis start _ begun run
  exact ⟨genesis, start, _, who, remark, transfer, begun, run, accepted.1, accepted.2, traces,
    fun trail traced => guarded trail traced who⟩

end StateTransition.Testnet
