import StateTransition.Proofs.Chain.Log
import StateTransition.Proofs.Testnet.Header
import StateTransition.Proofs.Testnet.Supply
import StateTransition.Proofs.Transaction.Events

set_option autoImplicit false

/-! The story that the log of a block tells. Each extrinsic that is included has a group of records in a
phase of its own: what has happened in it, what its signer has paid for it, and as the last of them how
it has ended. What is rejected is not told, and of a call that has failed nothing is told but its
failure. -/

namespace StateTransition.Testnet

open Item (Under under_head not_under_head)
open Rules (recordIn takings apart_of_log)

theorem silent : rules.Silent where
  lives := ⟨fun _ => Action.Logs.pure (), fun _ => Action.Logs.pure ()⟩
  fees _ := Action.Logs.pure ()

/-! ### The events of an extrinsic -/

theorem dispatch_adds {call : Call} {signer : Option AccountId} {outcome : DispatchOutcome}
    {before after : World} (run : dispatch call (.ofSigner signer) before = .ok outcome after) :
    ∃ events : List (Event AccountId), events.length ≤ 7 ∧
      (∀ event ∈ events, event.isPlain = true) ∧
      (outcome.isOk = false → events = []) ∧ rules.Adds events before.store after.store := by
  cases call with
  | timestamp call =>
      have tells : Attempt.Logs rules 0 (Timestamp.run (.ofSigner signer) call) :=
        Action.Logs.of_local (runTimestamp_names _ call) (apart_of_log (by decide))
      refine Call.layered_logs (runTimestamp_names _ call) (fun post ended ran => ?_) run
      exact (tells _ _ _ ran).mono (Nat.zero_le 7)
  | system call =>
      refine Call.layered_logs (runSystemCall_names signer call) (fun post ended ran => ?_) run
      exact (Rules.systemStep_of_signer ran).logs.mono (by decide)
  | balances call =>
      refine Call.layered_logs (runBalanceCall_names signer call) (fun post ended ran => ?_) run
      exact Rules.runBalanceCall_logs silent.lives ran

/-- What is told of an extrinsic whose call has failed: what was taken of its signer, and that it was
for the fee. -/
def Charged (extrinsic : Extrinsic) (body : List (Event AccountId)) : Prop :=
  match extrinsic.signature with
  | none => body = []
  | some signature => ∃ who fee, signature.place.resolve? = some who ∧
      body = takings who fee ++ [.feePaid who fee signature.terms.tip]

structure Story (extrinsic : Extrinsic) (result : Except DispatchError Unit)
    (body : List (Event AccountId)) : Prop where
  bounded : body.length ≤ 13
  endless : ∀ event ∈ body, event.isEnding = false
  paid : body.countP Event.isPayment = if extrinsic.signature.isSome then 1 else 0
  reverted : ∀ error, result = .error error → Charged extrinsic body

private theorem countP_isPayment_of_plain {events : List (Event AccountId)}
    (plain : ∀ event ∈ events, event.isPlain = true) : events.countP Event.isPayment = 0 := by
  rw [List.countP_eq_zero]
  intro event member
  rw [Event.isPayment_of_plain (plain event member)]
  exact Bool.false_ne_true

namespace Story

variable {extrinsic : Extrinsic} {result : Except DispatchError Unit}
variable {during behind : List (Event AccountId)}

private theorem of_unsigned (unsigned : extrinsic.signature = none) (few : during.length ≤ 7)
    (plain : ∀ event ∈ during, event.isPlain = true)
    (reverted : ∀ error, result = .error error → during = []) : Story extrinsic result during where
  bounded := Nat.le_trans few (by decide)
  endless event member := Event.isEnding_of_plain (plain event member)
  paid := by
    rw [countP_isPayment_of_plain plain, unsigned]
    rfl
  reverted error fails := by
    rw [Charged, unsigned]
    exact reverted error fails

private theorem of_signed {signature : Signature Place Ed25519.Signature Number} {who : AccountId}
    {fee actual : Balance} (signs : extrinsic.signature = some signature)
    (resolves : signature.place.resolve? = some who) (fewDuring : during.length ≤ 7)
    (plainDuring : ∀ event ∈ during, event.isPlain = true) (fewBehind : behind.length ≤ 4)
    (plainBehind : ∀ event ∈ behind, event.isPlain = true)
    (reverted : ∀ error, result = .error error → during = [] ∧ behind = [] ∧ actual = fee) :
    Story extrinsic result
      (takings who fee ++ (during ++ (behind ++ [.feePaid who actual signature.terms.tip]))) where
  bounded := by
    have taking := Rules.takings_length who fee
    simp only [List.length_append, List.length_singleton]
    omega
  endless := by
    have ends : ∀ {events : List (Event AccountId)}, (∀ event ∈ events, event.isPlain = true) →
        ∀ event ∈ events, event.isEnding = false := fun plain event member =>
      Event.isEnding_of_plain (plain event member)
    simp only [List.forall_mem_append, List.forall_mem_singleton]
    exact ⟨ends (Rules.takings_plain who fee), ends plainDuring, ends plainBehind, rfl⟩
  paid := by
    rw [List.countP_append, List.countP_append, List.countP_append,
      countP_isPayment_of_plain (Rules.takings_plain who fee), countP_isPayment_of_plain plainDuring,
      countP_isPayment_of_plain plainBehind, signs]
    rfl
  reverted error fails := by
    obtain ⟨rfl, rfl, rfl⟩ := reverted error fails
    rw [Charged, signs]
    exact ⟨who, actual, resolves, rfl⟩

end Story

namespace Included

variable {extrinsic : Extrinsic} {outcome : DispatchOutcome} {before after : World}
variable (included : Included extrinsic outcome before after)

include included

private theorem failed_of_plain {error : DispatchError} (fails : outcome.plain = .error error) :
    outcome.isOk = false ∧ outcome.post = .unchanged := by
  have reported := dispatch_reports included.dispatched
  cases outcome with
  | ok post => cases fails
  | error failure =>
      refine ⟨rfl, reported.trans ?_⟩
      cases extrinsic.call <;> rfl

private theorem readied_unsigned (unsigned : extrinsic.signature = none) :
    included.stages.payment = none ∧
      rules.Adds [] before.store included.stages.ready.store := by
  obtain ⟨_, ⟨_, nobody⟩ | ⟨signature, _, signs, _⟩⟩ :=
    ExtrinsicForm.verified_passes included.passes
  · rcases prepare_charges included.stages.prepares with ⟨_, free, takes⟩ | ⟨who, terms, signs, _⟩
    · exact ⟨free, (Rules.takeRoom_adds takes).behind fun key under =>
        noted_spares _ before (apart_of_log (by decide) key under)⟩
    · rw [nobody] at signs
      cases signs
  · rw [unsigned] at signs
    cases signs

private theorem readied_signed {signature : Signature Place Ed25519.Signature Number}
    (signs : extrinsic.signature = some signature) :
    ∃ who fee, signature.place.resolve? = some who ∧
      included.stages.payment =
        some ⟨who, signature.terms.tip, if fee = 0 then none else some fee⟩ ∧
      fee = rules.fee (UInt32.ofNat (form.codec.encode extrinsic).length) (form.info extrinsic)
        signature.terms.tip before.store ∧
      rules.Adds (takings who fee) before.store included.stages.ready.store := by
  obtain ⟨who, resolves, signer⟩ := included.signer_eq signs
  rcases prepare_charges included.stages.prepares with ⟨nobody, _⟩ | ⟨payer, terms, signed, checks⟩
  · rw [signer] at nobody
    cases nobody
  · rw [signer] at signed
    cases signed
    obtain ⟨fee, payment, declared, adds⟩ := Rules.prepareSigned_adds positive checks
    rw [noted_fee] at declared
    exact ⟨who, fee, resolves, payment, declared, adds.behind fun key under =>
      noted_spares _ before (apart_of_log (by decide) key under)⟩

private theorem settled_unsigned (free : included.stages.payment = none) :
    rules.Adds [] included.stages.dispatched.store included.applied.store := by
  rcases Rules.settle_returns included.stages.settles with ⟨_, applied⟩ | ⟨charge, pays, _⟩
  · have returned : included.applied.store = returnRoom (form.info extrinsic) outcome.post
        included.stages.dispatched.store := congrArg World.store applied
    rw [returned]
    exact Rules.returnRoom_adds _ _ _
  · rw [free] at pays
    cases pays

/-- If the call has failed the declared fee is what was paid in the end, and nothing else is told. -/
theorem settled_signed {who : AccountId} {fee tip : Balance}
    (payment : included.stages.payment = some ⟨who, tip, if fee = 0 then none else some fee⟩)
    (declared : fee = rules.fee (UInt32.ofNat (form.codec.encode extrinsic).length)
      (form.info extrinsic) tip before.store) :
    ∃ (actual : Balance) (behind : List (Event AccountId)), behind.length ≤ 4 ∧
      (∀ event ∈ behind, event.isPlain = true) ∧
      (∀ error, outcome.plain = .error error → behind = [] ∧ actual = fee) ∧
      rules.Adds (behind ++ [.feePaid who actual tip]) included.stages.dispatched.store
        included.applied.store := by
  rcases Rules.settle_returns included.stages.settles with ⟨free, _⟩ | ⟨charge, pays, settles⟩
  · rw [payment] at free
    cases free
  rw [payment] at pays
  cases pays
  have returned : rules.Adds [] included.stages.dispatched.store (returnRoom (form.info extrinsic)
      outcome.post included.stages.dispatched.store) := Rules.returnRoom_adds _ _ _
  cases succeeds : outcome.plain with
  | ok answer =>
      obtain ⟨actual, behind, few, plain, adds⟩ := Rules.settlePayment_adds silent settles
      exact ⟨actual, behind, few, plain, nofun, returned.trans adds⟩
  | error cause =>
      have multiplier : (returnRoom (form.info extrinsic) outcome.post
          included.stages.dispatched.store).get? Item.nextMultiplier.key =
            before.store.get? Item.nextMultiplier.key :=
        (Rules.room_apart ((Rules.returnRoom_local Rules.holdsRoom_names _ _).spares _)).2.trans
          included.dispatched_multiplier
      have unchanged : rules.actualFee (UInt32.ofNat (form.codec.encode extrinsic).length)
          (form.info extrinsic) outcome.post tip (returnRoom (form.info extrinsic) outcome.post
            included.stages.dispatched.store) = fee := by
        rw [declared, Rules.actualFee_congr multiplier, (included.failed_of_plain succeeds).2,
          Rules.actualFee_unchanged]
      have adds := Rules.settlePayment_exact silent settles unchanged rfl
      exact ⟨fee, [], Nat.zero_le 4, List.forall_mem_nil _, fun _ _ => ⟨rfl, rfl⟩,
        returned.trans adds⟩

theorem story : ∃ body, Story extrinsic outcome.plain body ∧
    rules.Adds body before.store included.applied.store := by
  obtain ⟨during, few, plain, reverted, dispatched⟩ := dispatch_adds included.dispatched
  cases signs : extrinsic.signature with
  | none =>
      obtain ⟨free, readied⟩ := included.readied_unsigned signs
      have adds := (readied.trans dispatched).trans (included.settled_unsigned free)
      rw [List.nil_append, List.append_nil] at adds
      exact ⟨during, .of_unsigned signs few plain fun error fails =>
        reverted (included.failed_of_plain fails).1, adds⟩
  | some signature =>
      obtain ⟨who, fee, resolves, payment, declared, readied⟩ := included.readied_signed signs
      obtain ⟨actual, behind, fewBehind, plainBehind, exact, settled⟩ :=
        included.settled_signed payment declared
      have nothing : ∀ error, outcome.plain = .error error →
          during = [] ∧ behind = [] ∧ actual = fee := fun error fails =>
        ⟨reverted (included.failed_of_plain fails).1, exact error fails⟩
      exact ⟨_, .of_signed signs resolves few plain fewBehind plainBehind nothing,
        readied.trans (dispatched.trans settled)⟩

end Included

/-! ### The records of a block -/

/-- The records of what was taken into a block at a place. It was run in the world that it was taken in:
what it tells is recorded in the phase of its place, and the last of it is how its call has ended. -/
def Group (place : Nat) (taken : Taken) (records : List (EventRecord AccountId)) : Prop :=
  ∃ outcome inside body last, Nonempty (Included taken.extrinsic outcome taken.before.layered inside) ∧
    outcome.plain = taken.result ∧ Story taken.extrinsic taken.result body ∧
    rules.Ends (form.info taken.extrinsic) outcome last ∧
    records = (body ++ [last]).map (recordIn (.extrinsic (UInt32.ofNat place)))

/-- There is a group of records for all that was taken, in its order. -/
structure Tells (items : List Taken) (groups : List (List (EventRecord AccountId))) : Prop where
  length : groups.length = items.length
  group : ∀ place item records, items[place]? = some item → groups[place]? = some records →
    Group place item records

namespace Tells

variable {items : List Taken} {groups : List (List (EventRecord AccountId))}

theorem nil : Tells [] [] where
  length := rfl
  group place item records found _ := by
    rw [List.getElem?_nil] at found
    cases found

theorem concat (tells : Tells items groups) {item : Taken} {records : List (EventRecord AccountId)}
    (group : Group items.length item records) :
    Tells (items ++ [item]) (groups ++ [records]) where
  length := by
    rw [List.length_append, List.length_append, tells.length]
    rfl
  group place item others atPlace told := by
    rcases Nat.lt_trichotomy place items.length with earlier | here | behind
    · rw [List.getElem?_append_left earlier] at atPlace
      rw [List.getElem?_append_left (tells.length ▸ earlier)] at told
      exact tells.group place item others atPlace told
    · subst here
      rw [List.getElem?_concat_length] at atPlace
      rw [← tells.length, List.getElem?_concat_length] at told
      cases atPlace
      cases told
      exact group
    · rw [List.getElem?_eq_none (by rw [List.length_append, List.length_singleton]; omega)] at atPlace
      cases atPlace

end Tells

/-- While a block is built its log tells of what was taken so far, and the next event belongs to what
comes next. -/
structure Telling (start : Digest) (items : List Taken) (store : Store) : Prop where
  assembles : Assembles start (items.map Taken.item) store
  later : Word.isZero ((Item.number : Slot Number Number).get store) = false
  phase : Rules.phaseOf store = .extrinsic (Environment.extrinsicIndex store)
  logged : ∃ groups, Tells items groups ∧ groups.flatten.length ≤ 14 * items.length ∧
    rules.Logged groups.flatten store

namespace Telling

variable {start : Digest} {items : List Taken}

theorem seen {before after : Store} (same : after.visible = before.visible)
    (telling : Telling start items before) : Telling start items after where
  assembles := telling.assembles.seen same
  later := by
    rw [Slot.seen_get (Item.number : Slot Number Number) _ _ same]
    exact telling.later
  phase := by
    rw [Rules.phaseOf, Environment.extrinsicIndex, Slot.seen_get Item.phase _ _ same,
      Slot.seen_get Item.extrinsicIndex _ _ same]
    exact telling.phase
  logged := by
    obtain ⟨groups, tells, few, logged⟩ := telling.logged
    exact ⟨groups, tells, few, logged.congr fun key _ => Store.seen_get? key after before same⟩

theorem begins {header : Header Number} {before begun : World} (later : header.number ≠ 0)
    (cleared : Environment.Cleared before.store) (run : chain.begin header before = .ok () begun) :
    Telling header.digest.beforehand [] begun.store := by
  have assembles := Assembles.begins cleared run
  obtain ⟨logged, phase⟩ := Chain.begin_logged beginsLocal (fun _ _ => not_false) run
  refine ⟨assembles, ?_, ?_, [], .nil, Nat.le_refl 0, logged⟩
  · have placed : (Item.number : Slot Number Number).get begun.store = header.number :=
      (Chain.begin_places blocksLocal run).1.number
    rw [placed]
    exact beq_eq_false_iff_ne.mpr fun zero => later (UInt32.toNat_inj.mp zero)
  · rw [phase, assembles.gathers.extrinsicIndex]
    rfl

theorem includes {extrinsic : Extrinsic} {outcome : DispatchOutcome} {before inside : World}
    (included : Included extrinsic outcome before.layered inside)
    (telling : Telling start items before.store) :
    Telling start (items ++ [⟨extrinsic, outcome.plain, before⟩]) inside.store := by
  have layered : Telling start items before.layered.store :=
    telling.seen (Store.visible_openLayer before.store)
  obtain ⟨assembles, later, phase, groups, tells, few, logged⟩ := layered
  obtain ⟨body, story, adds⟩ := included.story
  have ended := included.ends
  constructor
  case assembles =>
    rw [List.map_append]
    exact assembles.includes included
  case later =>
    have spared : inside.store.get? (Item.number : Slot Number Number).key =
        before.layered.store.get? (Item.number : Slot Number Number).key :=
      included.spares (not_under_head .number (by decide))
    rw [Slot.get_congr _ spared]
    exact later
  case phase =>
    rw [ended]
    exact Environment.phaseOf_nextExtrinsic _
  case logged =>
    have places := assembles.counted.few
    rw [List.length_map] at places
    have told := story.bounded
    have place : Rules.phaseOf before.layered.store = .extrinsic (UInt32.ofNat items.length) := by
      rw [phase, assembles.gathers.extrinsicIndex, encodings, List.length_map, List.length_map]
    have recorded := (adds.trans (Rules.Adds.record (rules.ending outcome (form.info extrinsic))
      included.applied.store)).logged groups.flatten later logged
        (by rw [List.length_append, List.length_singleton]; omega)
    rw [place] at recorded
    have group : Group items.length ⟨extrinsic, outcome.plain, before⟩
        ((body ++ [rules.ending outcome (form.info extrinsic)]).map
          (recordIn (.extrinsic (UInt32.ofNat items.length)))) :=
      ⟨outcome, inside, body, _, ⟨included⟩, rfl, story, rules.ending_ends _ _, rfl⟩
    refine ⟨_, tells.concat group, ?_, ?_⟩
    · rw [List.flatten_append, List.flatten_singleton, List.length_append, List.length_map,
        List.length_append, List.length_singleton, List.length_append, List.length_singleton]
      omega
    · have going : Store.Local (Under [.extrinsicIndex, .phase]) Environment.nextExtrinsic :=
        Environment.nextExtrinsic_local (under_head .extrinsicIndex (by decide))
          (under_head .phase (by decide))
      rw [List.flatten_append, List.flatten_singleton, ended]
      exact recorded.congr fun key under => going.spares _ key (under.apart (by decide))

end Telling

/-- The log tells the story of the block, after the first. Its records are those of the beginning, then
those of the extrinsics that were taken, each in its own phase and in their order, and then those of the
end; and they are counted. An extrinsic tells once what was paid for it if it is signed, and in the end
how its call went and how much of the block it took; of a call that has failed it tells nothing else. -/
theorem author_tells (header found : Header Number) (candidates : List Extrinsic)
    (outcomes : List ApplyOutcome) (before after : World) (cleared : Environment.Cleared before.store)
    (later : header.number ≠ 0) (run : author header candidates before = .ok (found, outcomes) after) :
    outcomes.length = candidates.length ∧
      ∃ (begun : World) (opening closing : List (EventRecord AccountId))
        (groups : List (List (EventRecord AccountId))),
        chain.begin header before = .ok () begun ∧
        (taken candidates begun).map Taken.item = passed candidates outcomes ∧
        rules.Logged (opening ++ groups.flatten ++ closing) after.store ∧
        (∀ record ∈ opening, record.phase = .beginning) ∧
        (∀ record ∈ closing, record.phase = .finalization) ∧
        Tells (taken candidates begun) groups := by
  obtain ⟨begun, applied, begins, applies, finishes⟩ := author_eq_ok run
  have telling : Telling header.digest.beforehand (taken candidates begun) applied.store :=
    applyEach_takes (Telling header.digest.beforehand) (fun _ _ _ => Telling.seen)
      (fun _ _ _ _ _ => Telling.includes) applies (Telling.begins later cleared begins)
  obtain ⟨groups, tells, _, logged⟩ := telling.logged
  -- On the network nothing is logged as a block begins and when it is closed.
  refine ⟨applyEach_length applies, begun, [], [], groups, begins, taken_passed applies, ?_,
    List.forall_mem_nil _, List.forall_mem_nil _, tells⟩
  rw [List.nil_append, List.append_nil]
  exact logged.congr fun key under => finish_local.spared finishes (under.apart (by decide))

/-- A block with three extrinsics out of four candidates: the time, a transfer of more than there is,
and a remark that is to be told. The remark with a nonce that is too high is rejected. The signatures are
those by the neutral point of the curve, which prove any message. -/
theorem author_tells_transfer :
    ∃ (header found : Header Number) (candidates : List Extrinsic) (outcomes : List ApplyOutcome)
      (before begun after : World) (opening closing : List (EventRecord AccountId))
      (groups : List (List (EventRecord AccountId))),
      (Environment.Cleared before.store ∧ header.number ≠ 0 ∧
        author header candidates before = .ok (found, outcomes) after) ∧
      chain.begin header before = .ok () begun ∧
      outcomes = [.ok (.ok ()), .ok (.error (rules.balanceError .insufficient)),
        .error (.invalid .future), .ok (.ok ())] ∧
      rules.Logged (opening ++ groups.flatten ++ closing) after.store ∧ groups.length = 3 ∧
      Tells (taken candidates begun) groups := by
  let who : AccountId := ⟨1 :: List.replicate 31 0, rfl⟩
  let proof : Octets 64 := ⟨1 :: List.replicate 63 0, rfl⟩
  let signed (nonce : Number) (call : Call) : Extrinsic :=
    ⟨some ⟨.id who, proof, ⟨.immortal, nonce, 0⟩⟩, call⟩
  let candidates : List Extrinsic :=
    [⟨none, .timestamp (.set 1000)⟩,
      signed 0 (.balances (.transferKeepAlive (.id (.filled 32 2)) 1000000000000001)),
      signed 3 (.system (.remarkWithEvent [])), signed 1 (.system (.remarkWithEvent [7]))]
  let endowed := Action.ending (rules.endow [(who, 1000000000000000)]) ⟨.empty, []⟩
  let before : World := ⟨rules.writeGenesis endowed.store, []⟩
  let outcomes : List ApplyOutcome :=
    [.ok (.ok ()), .ok (.error (rules.balanceError .insufficient)), .error (.invalid .future),
      .ok (.ok ())]
  have answered :
      (Action.answer (author (Header.blank 1) candidates) before).map (·.2) = .ok outcomes := by
    decide +kernel
  have cleared : Environment.Cleared before.store :=
    ⟨Store.bare_of_keys (by decide +kernel), by decide +kernel, by decide +kernel, by decide +kernel,
      by decide +kernel⟩
  obtain ⟨sealed, run⟩ := author_of_outcomes answered
  obtain ⟨_, begun, opening, closing, groups, begins, passes, logged, _, _, tells⟩ :=
    author_tells (Header.blank 1) sealed candidates outcomes before _ cleared (by decide) run
  have three : (taken candidates begun).length = 3 := by
    rw [← List.length_map, passes]
    rfl
  exact ⟨Header.blank 1, sealed, candidates, outcomes, before, begun, _, opening, closing, groups,
    ⟨cleared, by decide, run⟩, begins, rfl, logged, tells.length.trans three, tells⟩

end StateTransition.Testnet
