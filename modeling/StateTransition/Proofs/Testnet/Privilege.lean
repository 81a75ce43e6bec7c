import StateTransition.Proofs.Chain.Digest
import StateTransition.Proofs.Privilege
import StateTransition.Proofs.Testnet.Invariant

set_option autoImplicit false

/-! Nobody gains the power of the chain on the test network. Nothing is authorized in the beginning,
and what only the chain itself may do is refused to every extrinsic; so nothing is ever authorized,
and the code stays what it was. -/

namespace StateTransition.Testnet

open Item (Under under_head not_under_head)

def Call.needsRoot : Call → Bool
  | .system call => call.needsRoot
  | .timestamp _ => false
  | .balances call => call.needsRoot

/-! ### Calls -/

section

variable {call : Call} {signer : Option AccountId} {world after : World}
variable {outcome : DispatchOutcome}
variable (absent : world.store.get? Layer.levelKey = none)

include absent

theorem dispatch_refused (needs : call.needsRoot = true)
    (run : dispatch call (.ofSigner signer) world = .ok outcome after) :
    outcome = .error (.ofError .badOrigin) := by
  cases call with
  | system call =>
      change Call.layered (rules.runSystemCall (.ofSigner signer) call) world = _ at run
      rw [Rules.runSystemCall_refused signer needs] at run
      exact Call.layered_throw absent run
  | timestamp call => cases needs
  | balances call =>
      change Call.layered (rules.runBalanceCall (.ofSigner signer) call) world = _ at run
      rw [Rules.runBalanceCall_refused signer needs] at run
      exact Call.layered_throw absent run

private theorem dispatch_level (run : dispatch call (.ofSigner signer) world = .ok outcome after) :
    after.store.get? Layer.levelKey = none := by
  cases call with
  | system call =>
      have isLocal : Attempt.Local (Under [.code, .digest, .authorizedUpgrade, .events, .eventCount])
          (rules.runSystemCall (.ofSigner signer) call) :=
        Rules.runSystemCall_local (holdsUpgrade (by decide)) (holdsLog (by decide)) signer call
      exact Call.layered_level isLocal (not_under_head .level (by decide)) absent run
  | timestamp call =>
      have isLocal : Attempt.Local (Under [.now, .isSet])
          (Timestamp.run (.ofSigner signer) call) :=
        Timestamp.run_local (holdsTime (by decide)) _ call
      exact Call.layered_level isLocal (not_under_head .level (by decide)) absent run
  | balances call =>
      have isLocal : Attempt.Local (Under [.account, .totalIssuance, .events, .eventCount])
          (rules.runBalanceCall (.ofSigner signer) call) :=
        Rules.runBalanceCall_local (holdsBooks (by decide)) signer call
      exact Call.layered_level isLocal (not_under_head .level (by decide)) absent run

end

def plainNames : List Item.Name :=
  [.level, .now, .isSet, .account, .totalIssuance, .events, .eventCount]

def powerNames : List Item.Name := [.level, .code, .authorizedUpgrade, .digest]

section

variable {call : Call} {signer : Option AccountId} {world after : World}
variable {outcome : DispatchOutcome}
variable (nothing : Item.authorizedUpgrade.get world.store = none)

include nothing

theorem dispatch_unauthorized {code : Bytes}
    (run : dispatch (.system (.applyUpgrade code)) (.ofSigner signer) world = .ok outcome after) :
    outcome.isOk = false := by
  rcases Rules.dispatchSystem_authorization rfl run with ⟨fails, _⟩ | ⟨_, authorization⟩
  · exact fails
  · rw [nothing] at authorization
    generalize Item.authorizedUpgrade.get after.store = left at authorization
    cases authorization with
    | keeps other => exact absurd rfl (other code)

private theorem dispatch_plain (run : dispatch call (.ofSigner signer) world = .ok outcome after)
    {key : Bytes} (outside : ¬Under plainNames key) :
    after.store.get? key = world.store.get? key := by
  have apart : ∀ names : List Item.Name, (∀ name ∈ names, name ∈ plainNames) → ¬Under names key :=
    fun names within under => outside (under.mono within)
  cases call with
  | timestamp call =>
      have isLocal : Action.Local (Under timestampNames) _ := dispatch_names (.timestamp call) signer
      exact isLocal.spared run (apart _ (by decide))
  | balances call =>
      have isLocal : Action.Local (Under balanceNames) _ := dispatch_names (.balances call) signer
      exact isLocal.spared run (apart _ (by decide))
  | system call =>
      have different : key ≠ Layer.levelKey := by
        rintro rfl
        exact outside (under_head .level (by decide))
      rcases Call.layered_cases (runSystemCall_names signer call) run with
        ⟨_, reverted⟩ | ⟨_, ended, _, inside, leaves⟩
      · exact reverted _ different
      · have below : Item.authorizedUpgrade.key ≠ Layer.levelKey := by
          have other : Item.Name.authorizedUpgrade ≠ .level := nofun
          exact Item.Name.head_ne other
        have unauthorized : Item.authorizedUpgrade.get (Layer.enteredWorld world).store = none := by
          rw [Slot.get_congr _ (Layer.entered_get? world below), nothing]
        have step := Rules.systemStep_of_signer inside
        rw [leaves _ different, step.spares unauthorized (apart _ (by decide)),
          Layer.entered_get? world different]

variable (absent : world.store.get? Layer.levelKey = none)

include absent

private theorem dispatch_nobody (run : dispatch call (.ofSigner none) world = .ok outcome after)
    (succeeds : outcome.isOk = true) : ∃ moment, call = .timestamp (.set moment) := by
  cases call with
  | timestamp call =>
      obtain ⟨moment⟩ := call
      exact ⟨moment, rfl⟩
  | system call =>
      by_cases upgrade : ∃ code, call = .applyUpgrade code
      · obtain ⟨code, rfl⟩ := upgrade
        rw [dispatch_unauthorized nothing run] at succeeds
        cases succeeds
      · change Call.layered (rules.runSystemCall .nobody call) world = _ at run
        rw [Rules.runSystemCall_nobody fun code same => upgrade ⟨code, same⟩] at run
        rw [Call.layered_throw absent run] at succeeds
        cases succeeds
  | balances call =>
      change Call.layered (rules.runBalanceCall .nobody call) world = _ at run
      rw [Rules.runBalanceCall_nobody] at run
      rw [Call.layered_throw absent run] at succeeds
      cases succeeds

private theorem dispatch_spares_power
    (run : dispatch call (.ofSigner signer) world = .ok outcome after) :
    ∀ name ∈ powerNames, after.store.get? name.head = world.store.get? name.head := by
  have apart : ∀ name ∈ powerNames, name = .level ∨ name ∉ plainNames := by decide
  intro name member
  rcases apart name member with rfl | foreign
  · exact (dispatch_level absent run).trans absent.symm
  · exact dispatch_plain nothing run (not_under_head name foreign)

end

/-! ### States -/

/-- No upgrade is authorized, the code is that of the beginning, the digest does not tell of another,
and nothing is run in a layer. -/
structure Sheltered (start store : Store) : Prop where
  level : store.get? Layer.levelKey = none
  code : store.get? Item.codeKey = start.get? Item.codeKey
  authorized : store.get? Item.authorizedUpgrade.key = none
  digest : .environmentUpdated ∉ Item.digest.get store

namespace Sheltered

variable {start before after : Store}

theorem unauthorized (sheltered : Sheltered start before) :
    Item.authorizedUpgrade.get before = none :=
  Item.authorizedUpgrade.get_of_none sheltered.authorized

theorem same (sheltered : Sheltered start before)
    (same : ∀ name ∈ powerNames, after.get? name.head = before.get? name.head) :
    Sheltered start after where
  level := (same .level (by decide)).trans sheltered.level
  code := (same .code (by decide)).trans sheltered.code
  authorized := (same .authorizedUpgrade (by decide)).trans sheltered.authorized
  digest := by
    have told : Item.digest.get after = Item.digest.get before :=
      Slot.get_congr _ (same .digest (by decide))
    rw [told]
    exact sheltered.digest

theorem of_spares (sheltered : Sheltered start before) {names : List Item.Name}
    (apart : ∀ name ∈ powerNames, name ∉ names)
    (spares : ∀ key, ¬Under names key → after.get? key = before.get? key) :
    Sheltered start after :=
  sheltered.same fun name member => spares _ (not_under_head name (apart name member))

end Sheltered

private theorem Bookkeeping.power_apart (place : UInt32) (signer : Option AccountId)
    {name : Item.Name} (power : name ∈ powerNames) : ¬Bookkeeping place signer name.head := by
  have foreign : ∀ name ∈ powerNames, name ∉ Bookkeeping.names := by decide
  exact Bookkeeping.apart (foreign name power)

/-- What an extrinsic cannot gain: the calls of the chain itself are refused to it, it applies no
upgrade, and without a signer it can only tell the time. -/
structure Powerless (extrinsic : Extrinsic) (result : Except DispatchError Unit) : Prop where
  refused : extrinsic.call.needsRoot = true → result = .error .badOrigin
  upgrade : ∀ code, extrinsic.call = .system (.applyUpgrade code) → result ≠ .ok ()
  unsigned : extrinsic.signature = none → result = .ok () →
    ∃ moment, extrinsic.call = .timestamp (.set moment)

namespace Included

variable {extrinsic : Extrinsic} {outcome : DispatchOutcome} {before after : World} {start : Store}
variable (included : Included extrinsic outcome before after)
variable (safe : Sheltered start before.store)

include included safe

private theorem readied_sheltered : Sheltered start included.stages.ready.store :=
  safe.same fun _ power => included.readied (Bookkeeping.power_apart _ _ power)

theorem sheltered : Sheltered start after.store := by
  have ready := included.readied_sheltered safe
  have called := ready.same
    (dispatch_spares_power ready.unauthorized ready.level included.dispatched)
  exact called.same fun _ power => included.closed 0 (Bookkeeping.power_apart _ _ power)

theorem powerless : Powerless extrinsic outcome.plain := by
  have ready := included.readied_sheltered safe
  have dispatched := included.dispatched
  have succeeds : outcome.plain = .ok () → outcome.isOk = true := by
    intro same
    cases outcome with
    | ok post => rfl
    | error failure => cases same
  constructor
  · intro needs
    rw [dispatch_refused ready.level needs dispatched]
    rfl
  · intro code called same
    rw [called] at dispatched
    have fails := dispatch_unauthorized ready.unauthorized dispatched
    rw [succeeds same] at fails
    cases fails
  · intro unsigned same
    have nobody : signer? extrinsic = none := by rw [signer?, unsigned]; rfl
    rw [nobody] at dispatched
    exact dispatch_nobody ready.unauthorized ready.level dispatched (succeeds same)

end Included

private theorem sheltered_kept (start : Store) : Kept (Sheltered start) where
  seen same sheltered := sheltered.same fun name _ => Store.seen_get? name.head _ _ same
  begins {header before after} short run sheltered := by
    have spares : ∀ name, name ∉ Chain.beginningNames →
        after.store.get? name.head = before.store.get? name.head := fun name foreign =>
      begin_spares (not_under_head name foreign) run
    refine ⟨(spares .level (by decide)).trans sheltered.level,
      (spares .code (by decide)).trans sheltered.code,
      (spares .authorizedUpgrade (by decide)).trans sheltered.authorized, ?_⟩
    rw [Chain.begin_digest beginsLocal not_false short.beforehand run]
    exact Digest.environmentUpdated_not_beforehand _
  includes run sheltered := by
    obtain ⟨_, _, ⟨included⟩⟩ := included_of_run run
    exact included.sheltered sheltered
  seals {number _ _ _} run sheltered :=
    sheltered.of_spares (by decide) fun _ outside => (sealing_local number).spared run outside
  validates {source extrinsic current _ _ _} run sheltered := by
    have untouched :=
      validateTransaction_untouched source extrinsic current (Or.inl sheltered.level)
    rw [Action.ending_of_run run] at untouched
    exact sheltered.same fun name _ => Store.seen_get? name.head _ _ untouched.visible

theorem Inclusion.Under.powerless {start : Store} {inclusion : Inclusion}
    (applied : inclusion.Under (Sheltered start)) :
    Powerless inclusion.extrinsic inclusion.result := by
  obtain ⟨before, _, looks, _, run⟩ := applied.run
  obtain ⟨_, plain, ⟨included⟩⟩ := included_of_run run
  rw [plain]
  exact included.powerless ((sheltered_kept start).seen looks applied.before)

/-! ### The beginning -/

def genesisNames : List Item.Name :=
  [.blockHash, .parentHash, .lastUpgrade, .extrinsicCount, .account, .totalIssuance, .events,
    .eventCount, .nextMultiplier]

theorem Genesis.state_spares {genesis : Genesis} {start : Store} (begun : genesis.state = .ok start)
    {key : Bytes} (outside : ¬Under genesisNames key) : start.get? key = none := by
  obtain ⟨funded, endows, looks⟩ := Genesis.state_stages begun
  have apart : ∀ names : List Item.Name, (∀ name ∈ names, name ∈ genesisNames) → ¬Under names key :=
    fun names within under => outside (under.mono within)
  have endowing : Action.Local (Under [.account, .totalIssuance, .events, .eventCount])
      (rules.endow genesis.balances) :=
    Rules.endow_local (holdsBooks (by decide)) (under_head .totalIssuance (by decide)) _
  calc start.get? key
      = (Item.nextMultiplier.put genesis.multiplier funded.store).get? key :=
        Store.seen_get? key _ _ looks
    _ = funded.store.get? key :=
        (multiplier_local genesis.multiplier).spares funded.store key (apart _ (by decide))
    _ = (rules.writeGenesis .empty).get? key := endowing.spared endows (apart _ (by decide))
    _ = none := writeGenesis_local.spares .empty key (apart _ (by decide))

theorem Genesis.state_sheltered {genesis : Genesis} {start : Store}
    (begun : genesis.state = .ok start) : Sheltered start start where
  level := Genesis.state_spares begun (not_under_head .level (by decide))
  code := rfl
  authorized := Genesis.state_spares begun (not_under_head .authorizedUpgrade (by decide))
  digest := by
    have nothing : start.get? Item.digest.key = none :=
      Genesis.state_spares begun (not_under_head .digest (by decide))
    rw [Item.digest.get_of_none nothing]
    exact List.not_mem_nil

/-! ### Headers -/

/-- The header of the block that a call of the host has ended, or has imported. -/
def Request.header? (request : Request) : Option (Header Number) :=
  if request.name = "BlockBuilder_finalize_block" then
    match chain.finish request.before with
    | .ok header _ => some header
    | .error _ _ => none
  else if request.name = "Core_execute_block" then
    match request.outcome, blockCodec.decodeAll request.input with
    | .ok (.ok _), .ok block => some block.header
    | _, _ => none
  else none

theorem Request.header_silent {request : Request} {header : Header Number} {start : Store}
    (safe : Sheltered start request.before.store) (ended : request.header? = some header) :
    .environmentUpdated ∉ header.digest := by
  have kept := sheltered_kept start
  have told : ∀ {number : Number} {found : Header Number} {before after : World},
      chain.sealing number before = .ok found after → Sheltered start before.store →
        .environmentUpdated ∉ found.digest := by
    intro number found before after seals sheltered
    rw [Chain.sealing_digest sealingEnds (holdsBlock (by decide))
      (not_under_head .digest (by decide)) seals]
    exact sheltered.digest
  unfold Request.header? at ended
  by_cases finishes : request.name = "BlockBuilder_finalize_block"
  · rw [if_pos finishes] at ended
    cases run : chain.finish request.before with
    | error trap after =>
        rw [run] at ended
        cases ended
    | ok found after =>
        rw [run] at ended
        cases ended
        rw [Chain.finish_seals] at run
        exact told run safe
  · rw [if_neg finishes] at ended
    by_cases imports : request.name = "Core_execute_block"
    · rw [if_pos imports] at ended
      cases answered : request.outcome with
      | error trap =>
          rw [answered] at ended
          cases ended
      | ok answer =>
          rw [answered] at ended
          cases answer with
          | error cause => cases ended
          | ok output =>
              obtain ⟨name, input, before⟩ := request
              cases imports
              have run := Action.run_of_answer_ok answered
              obtain ⟨⟨given, extrinsics⟩, _, decoded, executes, _⟩ := Entry.call_taking rfl run
              have short := (blockCodec_faithful.valid_of_decodeAll decoded).digest
              simp only [decoded] at ended
              cases ended
              obtain ⟨_, _, found, begins, _, applies, seals, compares⟩ :=
                Chain.execute_iff.mp executes
              rw [(Chain.compareHeaders_eq_ok.mp compares).1]
              exact told seals (kept.applyAll applies (kept.begins short begins safe))
    · rw [if_neg imports] at ended
      cases ended

/-- Nobody gains the power of the chain. In a run of the network from its genesis on the calls of the
chain itself are refused whenever they are included, no upgrade is applied, and without a signer
nothing succeeds but to tell the time; the code and the authorization of an upgrade stay what they
are, and no header tells of new code. Where calls on the chain are made directly, whoever makes them, an
upgrade is applied only if the hash of its code is authorized, and the chain itself has to authorize
the next one. -/
theorem no_root_power :
    (∀ (genesis : Genesis) (start : Store) (requests : List Request),
      genesis.state = .ok start → Run start requests → ∀ request ∈ requests,
        (∀ answer, request.outcome = .ok (.ok answer) →
          request.accepted = request.inclusions.map (·.extrinsic)) ∧
        (∀ inclusion ∈ request.inclusions, Powerless inclusion.extrinsic inclusion.result) ∧
        request.after.store.get? Item.codeKey = start.get? Item.codeKey ∧
        start.get? Item.authorizedUpgrade.key = none ∧
        request.after.store.get? Item.authorizedUpgrade.key = none ∧
        ∀ header, request.header? = some header → .environmentUpdated ∉ header.digest) ∧
    ∀ (store : Store) (directs : List (DirectCall AccountId)), rules.Directs store directs →
      (∀ direct ∈ directs, direct.call.isRaw = false) →
        (∀ direct ∈ directs, ∀ code, direct.Applies code →
          Item.authorizedUpgrade.get direct.before.store = some (blake256 code)) ∧
        ∀ earlier first between second later firstCode secondCode,
          directs = earlier ++ first :: (between ++ second :: later) →
          first.Applies firstCode → second.Applies secondCode →
            ∃ direct ∈ between, direct.Authorizes (blake256 secondCode) := by
  constructor
  · intro genesis start requests begun run request member
    have atStart := Genesis.state_sheltered begun
    obtain ⟨before, after⟩ := (sheltered_kept start).run atStart run request member
    refine ⟨fun _ => Request.accepted_eq_inclusions, ?_, after.code, atStart.authorized,
      after.authorized, fun _ => Request.header_silent before⟩
    intro inclusion included
    exact ((sheltered_kept start).request_inclusions before inclusion included).powerless
  · intro store directs run tame
    refine ⟨fun direct member code => DirectCall.authorized_of_member run member, ?_⟩
    rintro earlier first between second later firstCode secondCode rfl
    apply DirectCall.authorized_again _ run
    intro direct member
    apply tame
    exact List.mem_append_right _ (List.mem_cons_of_mem _ (List.mem_append_left _ member))

/-- A signer is refused to set the code in a block that is then told its time and ended; and the same
code is brought twice by nobody in particular, each time after the chain has authorized it. The
signature is one by the neutral point of the curve, which proves any message. -/
theorem no_root_power_refused :
    ∃ (genesis : Genesis) (start : Store) (requests : List Request) (renewal time : Extrinsic)
      (directs : List (DirectCall AccountId)) (code : Bytes),
      genesis.state = .ok start ∧ Run start requests ∧
      requests.map (fun request =>
        request.inclusions.map fun inclusion => (inclusion.extrinsic, inclusion.result)) =
          [[], [(renewal, .error .badOrigin)], [(time, .ok ())], []] ∧
      (∀ request ∈ requests, ∀ inclusion ∈ request.inclusions,
        Powerless inclusion.extrinsic inclusion.result) ∧
      (∀ request ∈ requests, ∀ header, request.header? = some header →
        .environmentUpdated ∉ header.digest) ∧
      rules.Directs .empty directs ∧
      directs.map (fun direct => (direct.origin, direct.outcome.isOk)) =
        [(.root, true), (.nobody, true), (.root, true), (.nobody, true)] ∧
      ∃ direct ∈ directs.drop 2, direct.Authorizes (blake256 code) := by
  let who : AccountId := ⟨1 :: List.replicate 31 0, rfl⟩
  let proof : Octets 64 := ⟨1 :: List.replicate 63 0, rfl⟩
  let code : Bytes := [1]
  let renewal : Extrinsic := ⟨some ⟨.id who, proof, ⟨.immortal, 0, 0⟩⟩, .system (.setCode code)⟩
  let time : Extrinsic := ⟨none, .timestamp (.set 1600000000000)⟩
  let genesis : Genesis := ⟨[(who, 1000000000000000)], .one⟩
  let start : Store := (Action.ending (rules.begin genesis) ⟨.empty, []⟩).store.flatten
  let applying (extrinsic : Extrinsic) (before : World) : Request :=
    ⟨"BlockBuilder_apply_extrinsic", form.codec.encode extrinsic, before⟩
  let beginning : Request :=
    ⟨"Core_initialize_block", headerCodec.encode (Header.blank 1), ⟨start, []⟩⟩
  let first := applying renewal beginning.after
  let second := applying time first.after
  let requests : List Request :=
    [beginning, first, second, ⟨"BlockBuilder_finalize_block", [], second.after⟩]
  let hash := blake256 code
  let granted := Action.ending (rules.dispatchSystem (.authorizeUpgrade hash) .root) ⟨.empty, []⟩
  let upgraded := Action.ending (rules.dispatchSystem (.applyUpgrade code) .nobody) granted
  let again := Action.ending (rules.dispatchSystem (.authorizeUpgrade hash) .root) upgraded
  let last := Action.ending (rules.dispatchSystem (.applyUpgrade code) .nobody) again
  let grant : DirectCall AccountId :=
    ⟨.authorizeUpgrade hash, .root, ⟨.empty, []⟩, .ok .unchanged, granted⟩
  let upgrade : DirectCall AccountId :=
    ⟨.applyUpgrade code, .nobody, granted, .ok ⟨none, .no⟩, upgraded⟩
  let renewed : DirectCall AccountId :=
    ⟨.authorizeUpgrade hash, .root, upgraded, .ok .unchanged, again⟩
  let next : DirectCall AccountId := ⟨.applyUpgrade code, .nobody, again, .ok ⟨none, .no⟩, last⟩
  let directs : List (DirectCall AccountId) := [grant, upgrade, renewed, next]
  have begun : genesis.state = .ok start := Genesis.state_of_answer (by decide +kernel)
  have run : Run start requests := ⟨rfl, rfl, rfl, rfl, trivial⟩
  have included : requests.map (fun request =>
      request.inclusions.map fun inclusion => (inclusion.extrinsic, inclusion.result)) =
        [[], [(renewal, .error .badOrigin)], [(time, .ok ())], []] := by decide +kernel
  have grants : rules.dispatchSystem (.authorizeUpgrade hash) .root ⟨.empty, []⟩ =
      .ok (.ok .unchanged) granted := Action.run_of_answer_ok (by decide +kernel)
  have upgrades : rules.dispatchSystem (.applyUpgrade code) .nobody granted =
      .ok (.ok ⟨none, .no⟩) upgraded := Action.run_of_answer_ok (by decide +kernel)
  have grantsAgain : rules.dispatchSystem (.authorizeUpgrade hash) .root upgraded =
      .ok (.ok .unchanged) again := Action.run_of_answer_ok (by decide +kernel)
  have upgradesAgain : rules.dispatchSystem (.applyUpgrade code) .nobody again =
      .ok (.ok ⟨none, .no⟩) last := Action.run_of_answer_ok (by decide +kernel)
  have directed : rules.Directs .empty directs := by
    have atNext : rules.Directs again.store [next] := DirectCall.directs_cons upgradesAgain trivial
    have atRenewed := DirectCall.directs_cons grantsAgain atNext
    exact DirectCall.directs_cons grants (DirectCall.directs_cons upgrades atRenewed)
  have tame : ∀ direct ∈ directs, direct.call.isRaw = false := by
    simp [directs, grant, upgrade, renewed, next, SystemCall.isRaw]
  have powerless := no_root_power.1 genesis start requests begun run
  have authorized := no_root_power.2 .empty directs directed tame
  obtain ⟨direct, member, authorizes⟩ := authorized.2 [grant] upgrade [renewed] next []
    code code rfl ⟨rfl, rfl⟩ ⟨rfl, rfl⟩
  exact ⟨genesis, start, requests, renewal, time, directs, code, begun, run, included,
    fun request member => (powerless request member).2.1,
    fun request member => (powerless request member).2.2.2.2.2, directed, rfl, direct,
    List.mem_append_left [next] member, authorizes⟩

end StateTransition.Testnet
