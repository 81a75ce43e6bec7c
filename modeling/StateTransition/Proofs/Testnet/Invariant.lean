import StateTransition.Proofs.Testnet.Format
import StateTransition.Proofs.Testnet.Replay

set_option autoImplicit false

/-! What is kept by every move on the network is kept by every call of the host, and so by every run.
The extrinsics that a call includes are told with the results of their calls, and each of them is
applied in a state that has what is kept. -/

namespace StateTransition.Testnet

/-! ### Included extrinsics -/

/-- An extrinsic that is included, with the result of its call. -/
structure Inclusion where
  extrinsic : Extrinsic
  result : Except DispatchError Unit
  before : Store
  after : Store

/-- What is included of extrinsics that are applied one after the other, up to the first that is
rejected. -/
def inclusions : List Extrinsic → World → List Inclusion
  | [], _ => []
  | extrinsic :: others, world =>
      match (chain.applyExtrinsic form extrinsic).run world with
      | .ok (.ok result) after =>
          ⟨extrinsic, result, world.store, after.store⟩ :: inclusions others after
      | _ => []

/-- The extrinsics that a call of the host includes: those of a block that is being imported, or one
that is not rejected. -/
def Request.inclusions (request : Request) : List Inclusion :=
  if request.name = "Core_execute_block" then
    match blockCodec.decodeAll request.input with
    | .ok block =>
        match chain.begin block.header request.before with
        | .ok () begun => Testnet.inclusions block.extrinsics begun
        | .error _ _ => []
    | .error _ => []
  else if request.name = "BlockBuilder_apply_extrinsic" then
    match form.codec.decodeAll request.input with
    | .ok extrinsic =>
        match Entry.applyExtrinsic extrinsic request.before with
        | .ok (.ok result) after => [⟨extrinsic, result, request.before.store, after.store⟩]
        | _ => []
    | .error _ => []
  else []

private theorem inclusions_of_applyAll {extrinsics : List Extrinsic} {before after : World}
    (run : chain.applyAll form extrinsics before = .ok () after) :
    (inclusions extrinsics before).map (·.extrinsic) = extrinsics := by
  induction extrinsics generalizing before with
  | nil => rfl
  | cons first others ih =>
      obtain ⟨result, middle, atFirst, atOthers⟩ := Chain.applyAll_cons_iff.mp run
      unfold inclusions
      rw [atFirst]
      exact congrArg (first :: ·) (ih atOthers)

theorem Entry.call_taking {α β : Type} {arguments : Codec α} {codec : Codec β} {run : α → Action β}
    {name : String} {input answer : Bytes} {before after : World}
    (known : Entry.methods.lookup name = some (Entry.taking arguments codec run))
    (answered : Entry.call name input before = .ok (.ok answer) after) :
    ∃ given value, arguments.decodeAll input = .ok given ∧ run given before = .ok value after ∧
      answer = codec.encode value := by
  unfold Entry.call at answered
  rw [known] at answered
  obtain ⟨found, ended, ran, answers⟩ := Action.bind_eq_ok answered
  cases found with
  | error cause => cases answers
  | ok output =>
      cases answers
      cases decoded : arguments.decodeAll input with
      | error cause =>
          rw [Entry.taking_of_error run decoded] at ran
          cases ran
      | ok given =>
          rw [Entry.taking_of_ok run decoded] at ran
          obtain ⟨value, runs, encodes⟩ := Action.map_eq_ok ran
          cases encodes
          exact ⟨given, value, rfl, runs, rfl⟩

theorem Request.accepted_eq_inclusions {request : Request} {answer : Bytes}
    (answered : request.outcome = .ok (.ok answer)) :
    request.accepted = request.inclusions.map (·.extrinsic) := by
  obtain ⟨name, input, before⟩ := request
  have run := Action.run_of_answer_ok answered
  have accepts : Request.accepted ⟨name, input, before⟩ = acceptances name input answer := by
    rw [Request.accepted, answered]
  rw [accepts]
  unfold acceptances Request.inclusions
  dsimp only
  by_cases imports : name = "Core_execute_block"
  · subst imports
    obtain ⟨⟨header, extrinsics⟩, _, decoded, executes, _⟩ := Entry.call_taking rfl run
    obtain ⟨begun, _, _, begins, _, applies, _, _⟩ := Chain.execute_iff.mp executes
    simp only [if_pos, decoded, begins]
    exact (inclusions_of_applyAll applies).symm
  · rw [if_neg imports, if_neg imports]
    by_cases includes : name = "BlockBuilder_apply_extrinsic"
    · subst includes
      obtain ⟨extrinsic, outcome, decoded, applies, rfl⟩ := Entry.call_taking rfl run
      simp only [if_pos, decoded, applies]
      cases outcome with
      | ok result => rfl
      | error cause => rfl
    · rw [if_neg includes, if_neg includes]
      rfl

/-! ### What is kept -/

/-- Every move on the network keeps what holds of the state. The header that a block begins with is
one that was read. -/
structure Kept (holds : Store → Prop) : Prop where
  seen : ∀ {before after : Store}, after.visible = before.visible → holds before → holds after
  begins : ∀ {header : Header Number} {before after : World}, header.digest.Short →
    chain.begin header before = .ok () after → holds before.store → holds after.store
  includes : ∀ {extrinsic : Extrinsic} {result : Except DispatchError Unit} {before after : World},
    (chain.applyExtrinsic form extrinsic).run before = .ok (.ok result) after →
      holds before.store → holds after.store
  seals : ∀ {number : Number} {header : Header Number} {before after : World},
    chain.sealing number before = .ok header after → holds before.store → holds after.store
  validates : ∀ {source : TransactionSource} {extrinsic : Extrinsic} {current : Hash}
    {verdict : Validity} {before after : World},
    chain.validateTransaction form source extrinsic current before = .ok verdict after →
      holds before.store → holds after.store

/-- An extrinsic was applied where something holds, and it holds afterwards. -/
structure Inclusion.Under (holds : Store → Prop) (inclusion : Inclusion) : Prop where
  before : holds inclusion.before
  after : holds inclusion.after
  run : ∃ before after : World, before.store.visible = inclusion.before.visible ∧
    after.store.visible = inclusion.after.visible ∧
    (chain.applyExtrinsic form inclusion.extrinsic).run before = .ok (.ok inclusion.result) after

namespace Kept

variable {holds : Store → Prop} (kept : Kept holds)

include kept

theorem applies {extrinsic : Extrinsic} {outcome : ApplyOutcome} {before after : World}
    (run : Entry.applyExtrinsic extrinsic before = .ok outcome after) (held : holds before.store) :
    holds after.store := by
  cases outcome with
  | error cause =>
      rw [Entry.store_of_rejected run]
      exact held
  | ok result =>
      obtain ⟨ended, ran, looks, _⟩ := Entry.included_run run
      exact kept.seen looks
        (kept.includes ran (kept.seen (Store.visible_openLayer before.store) held))

theorem finishes {header : Header Number} {before after : World}
    (run : chain.finish before = .ok header after) (held : holds before.store) :
    holds after.store := by
  rw [Chain.finish_seals] at run
  exact kept.seals run held

theorem applyAll {extrinsics : List Extrinsic} {before after : World}
    (run : chain.applyAll form extrinsics before = .ok () after) (held : holds before.store) :
    holds after.store := by
  induction extrinsics generalizing before with
  | nil =>
      cases run
      exact held
  | cons first others ih =>
      obtain ⟨result, middle, atFirst, atOthers⟩ := Chain.applyAll_cons_iff.mp run
      exact ih atOthers (kept.includes atFirst held)

theorem executes {block : Block Number Extrinsic} (short : block.header.digest.Short)
    {before after : World} (run : chain.execute form block before = .ok () after)
    (held : holds before.store) : holds after.store := by
  obtain ⟨header, extrinsics⟩ := block
  obtain ⟨begun, applied, found, begins, _, applies, seals, _⟩ := Chain.execute_iff.mp run
  exact kept.seals seals (kept.applyAll applies (kept.begins short begins held))

end Kept

/-! ### Entry points -/

def Keeps (holds : Store → Prop) (method : Bytes → Action (Except CodecError Bytes)) : Prop :=
  ∀ (input : Bytes) (world after : World) (found : Except CodecError Bytes),
    method input world = .ok found after → holds world.store → holds after.store

section

variable {α β : Type} {arguments : Codec α} {answer : Codec β} {holds : Store → Prop}

private theorem keeps_taking {run : α → Action β}
    (body : ∀ input given, arguments.decodeAll input = .ok given → ∀ world value after,
      run given world = .ok value after → holds world.store → holds after.store) :
    Keeps holds (Entry.taking arguments answer run) := by
  intro input world after found ran held
  cases decoded : arguments.decodeAll input with
  | error cause =>
      rw [Entry.taking_of_error run decoded] at ran
      cases ran
      exact held
  | ok given =>
      rw [Entry.taking_of_ok run decoded] at ran
      obtain ⟨value, runs, _⟩ := Action.map_eq_ok ran
      exact body input given decoded world value after runs held

private theorem keeps_ignoring {run : Action β}
    (body : ∀ world value after, run world = .ok value after → holds world.store →
      holds after.store) : Keeps holds (Entry.ignoring answer run) := by
  intro input world after found ran held
  obtain ⟨value, _, runs, answers⟩ := Action.bind_eq_ok ran
  cases answers
  exact body world value _ runs held

private theorem keeps_asking {query : α → Query β} :
    Keeps holds (Entry.taking arguments answer fun given => Action.ask (query given)) := by
  apply keeps_taking
  intro _ given _ world value after run held
  obtain ⟨_, rfl⟩ := Action.ask_eq_ok run
  exact held

private theorem keeps_looking {view : α → Store → β} :
    Keeps holds (Entry.taking arguments answer fun given => Action.look (view given)) := by
  apply keeps_taking
  intro _ given _ world value after run held
  cases run
  exact held

end

namespace Kept

variable {holds : Store → Prop} (kept : Kept holds)

include kept

theorem methods : ∀ entry ∈ Entry.methods, Keeps holds entry.2 := by
  unfold Entry.methods
  simp only [List.forall_mem_cons, List.not_mem_nil, false_implies, implies_true, and_true]
  refine ⟨?_, ?_, ?_, ?_, ?_, keeps_asking, keeps_asking, ?_, keeps_looking, keeps_looking,
    keeps_looking, keeps_looking⟩
  · apply keeps_ignoring
    intro world value after run held
    cases run
    exact held
  · apply keeps_taking
    intro input header decoded world value after run held
    have faithful : headerCodec.Faithful _ := Header.codec_faithful (by decide)
    exact kept.begins (faithful.valid_of_decodeAll decoded) run held
  · apply keeps_taking
    intro input block decoded world value after run held
    exact kept.executes (blockCodec_faithful.valid_of_decodeAll decoded).digest run held
  · exact keeps_taking fun _ _ _ _ _ _ run held => kept.applies run held
  · exact keeps_ignoring fun _ _ _ run held => kept.finishes run held
  · exact keeps_taking fun _ _ _ _ _ _ run held => kept.validates run held

theorem request (request : Request) (held : holds request.before.store) :
    holds request.after.store := by
  cases answered : request.outcome with
  | error trap =>
      have same : request.after = request.before := by rw [Request.after, answered]
      rw [same]
      exact held
  | ok answer =>
      have ends : request.after = Action.ending request.body request.before := by
        rw [Request.after, answered]
      have run : Entry.call request.name request.input request.before =
          .ok answer request.after := by
        rw [ends]
        exact Action.run_of_answer_ok answered
      rcases Entry.call_cases run with ⟨_, same⟩ | ⟨method, found, member, ran, _⟩
      · rw [same]
        exact held
      · exact kept.methods _ member _ _ _ found ran held

theorem run {start : Store} {requests : List Request} (held : holds start)
    (run : Run start requests) :
    ∀ request ∈ requests, holds request.before.store ∧ holds request.after.store := by
  induction requests generalizing start with
  | nil => exact fun _ member => absurd member List.not_mem_nil
  | cons first others ih =>
      obtain ⟨same, later⟩ := run
      have before := kept.seen same held
      have after := kept.request first before
      exact List.forall_mem_cons.mpr ⟨⟨before, after⟩, ih after later⟩

/-! ### Extrinsics that are included -/

theorem inclusions {extrinsics : List Extrinsic} {world : World} (held : holds world.store) :
    ∀ inclusion ∈ inclusions extrinsics world, inclusion.Under holds := by
  induction extrinsics generalizing world with
  | nil => exact fun _ member => absurd member List.not_mem_nil
  | cons first others ih =>
      unfold Testnet.inclusions
      cases applied : (chain.applyExtrinsic form first).run world with
      | error trap after => exact fun _ member => absurd member List.not_mem_nil
      | ok outcome after =>
          cases outcome with
          | error cause => exact fun _ member => absurd member List.not_mem_nil
          | ok result =>
              have still := kept.includes applied held
              exact List.forall_mem_cons.mpr
                ⟨⟨held, still, world, after, rfl, rfl, applied⟩, ih still⟩

theorem request_inclusions {request : Request} (held : holds request.before.store) :
    ∀ inclusion ∈ request.inclusions, inclusion.Under holds := by
  have nothing : ∀ inclusion ∈ ([] : List Inclusion), inclusion.Under holds := fun _ member =>
    absurd member List.not_mem_nil
  unfold Request.inclusions
  by_cases imports : request.name = "Core_execute_block"
  · rw [if_pos imports]
    cases decoded : blockCodec.decodeAll request.input with
    | error cause => exact nothing
    | ok block =>
        have read := (blockCodec_faithful.valid_of_decodeAll decoded).digest
        dsimp only
        cases begins : chain.begin block.header request.before with
        | error trap after => exact nothing
        | ok _ begun => exact kept.inclusions (kept.begins read begins held)
  · rw [if_neg imports]
    by_cases includes : request.name = "BlockBuilder_apply_extrinsic"
    · rw [if_pos includes]
      cases form.codec.decodeAll request.input with
      | error cause => exact nothing
      | ok extrinsic =>
          dsimp only
          cases applied : Entry.applyExtrinsic extrinsic request.before with
          | error trap after => exact nothing
          | ok outcome after =>
              cases outcome with
              | error cause => exact nothing
              | ok result =>
                  obtain ⟨ended, ran, looks, _⟩ := Entry.included_run applied
                  exact List.forall_mem_singleton.mpr ⟨held, kept.applies applied held,
                    request.before.layered, ended, Store.visible_openLayer _, looks.symm, ran⟩
    · rw [if_neg includes]
      exact nothing

end Kept

end StateTransition.Testnet
