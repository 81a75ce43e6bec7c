import StateTransition.Proofs.Call
import StateTransition.Proofs.Store.Nesting

set_option autoImplicit false

/-! What only the chain itself may do. A call that needs its power is refused to anybody else before
it begins. Anybody may bring the code of an upgrade, but it has to be the code that the chain itself
has authorized, and every authorization is used once. -/

namespace StateTransition

open Item (Under under_head not_under_head)

variable {Account Number Index : Type} [DecidableEq Account] [Word Number]
variable {rules : Rules Account Number} {world after : World}

/-! ### Calls that need the power of the chain -/

def SystemCall.needsRoot : SystemCall → Bool
  | .setCode _ | .setStorage _ | .killStorage _ | .killUnder _ _ | .authorizeUpgrade _ => true
  | .remark _ | .remarkWithEvent _ | .applyUpgrade _ => false

private theorem SystemCall.tame_of_needless {call : SystemCall}
    (needless : call.needsRoot = false) : call.isRaw = false := by
  cases call with
  | setStorage items => cases needless
  | killStorage keys => cases needless
  | killUnder head subkeys => cases needless
  | _ => rfl

def BalanceCall.needsRoot {Target : Type} : BalanceCall Target → Bool
  | .forceTransfer _ _ _ | .forceSetBalance _ _ => true
  | .transferAllowDeath _ _ | .transferKeepAlive _ _ => false

namespace Rules

theorem runSystemCall_refused (signer : Option Account) {call : SystemCall}
    (needs : call.needsRoot = true) :
    rules.runSystemCall (.ofSigner signer) call = throw .badOrigin := by
  cases call with
  | setCode code => exact Origin.requireRoot_bind signer _
  | setStorage items => exact Origin.requireRoot_bind signer _
  | killStorage keys => exact Origin.requireRoot_bind signer _
  | killUnder head subkeys => exact Origin.requireRoot_bind signer _
  | authorizeUpgrade hash => exact Origin.requireRoot_bind signer _
  | remark text => cases needs
  | remarkWithEvent text => cases needs
  | applyUpgrade code => cases needs

theorem runBalanceCall_refused (signer : Option Account)
    {call : BalanceCall (Address Account Index)} (needs : call.needsRoot = true) :
    rules.runBalanceCall (.ofSigner signer) call = throw .badOrigin := by
  cases call with
  | forceTransfer source target amount => exact Origin.requireRoot_bind signer _
  | forceSetBalance who free => exact Origin.requireRoot_bind signer _
  | transferAllowDeath target amount => cases needs
  | transferKeepAlive target amount => cases needs

theorem runSystemCall_nobody {call : SystemCall} (other : ∀ code, call ≠ .applyUpgrade code) :
    rules.runSystemCall .nobody call = throw .badOrigin := by
  cases call with
  | applyUpgrade code => exact absurd rfl (other code)
  | _ => rfl

theorem runBalanceCall_nobody (call : BalanceCall (Address Account Index)) :
    rules.runBalanceCall .nobody call = throw .badOrigin := by
  cases call <;> rfl

end Rules

namespace Call

variable {keys : Bytes → Prop} {body : Attempt DispatchError PostInfo} {outcome : DispatchOutcome}

theorem layered_throw {cause : DispatchError} (absent : world.store.get? Layer.levelKey = none)
    (run : layered (throw cause) world = .ok outcome after) : outcome = .error (.ofError cause) := by
  have nothing : Attempt.Local (fun _ => False) (throw cause : Attempt DispatchError PostInfo) :=
    Attempt.Local.throw cause
  unfold layered Layer.keepingSuccess at run
  obtain ⟨_, _, ran, answers⟩ := Action.bind_eq_ok run
  obtain ⟨_, _, rfl, inside, _⟩ := Layer.within_discarded (nothing.adapt _) absent ran
  cases inside
  cases answers
  rfl

theorem layered_level (isLocal : Attempt.Local keys body) (outside : ¬keys Layer.levelKey)
    (absent : world.store.get? Layer.levelKey = none)
    (run : layered body world = .ok outcome after) : after.store.get? Layer.levelKey = none := by
  have inside := isLocal.adapt DispatchFailure.ofError
  have balanced : Layer.Balanced (Layer.enteredWorld world).store
      (Action.ending (body.adapt DispatchFailure.ofError).run (Layer.enteredWorld world)).store :=
    ⟨inside.beneath _, inside.spares _ _ outside⟩
  have atomic := Layer.keepingSuccess_atomic DispatchFailure.ofError (Or.inl absent) fun _ => balanced
  have level := atomic.balanced.level
  change (Action.ending (layered body) world).store.get? _ = _ at level
  rw [Action.ending_of_run run] at level
  exact level.trans absent

end Call

/-! ### What calls on the chain do -/

/-- What a call on the chain does that succeeds, if it says itself where it writes. -/
inductive SystemStep (rules : Rules Account Number) (origin : Origin Account) :
    SystemCall → World → World → Prop
  | remarks (text : Bytes) {world : World} (known : origin ≠ .nobody) :
      SystemStep rules origin (.remark text) world world
  | notes (text : Bytes) {who : Account} {world after : World} (signed : origin = .signed who)
      (deposits : rules.deposit (.system (.remarked who (blake256 text))) world = .ok () after) :
      SystemStep rules origin (.remarkWithEvent text) world after
  | renews {code : Bytes} {world after : World} (root : origin = .root)
      (sets : rules.setCode code world = .ok () after) :
      SystemStep rules origin (.setCode code) world after
  | authorizes {hash : Hash} {world after : World} (root : origin = .root)
      (deposits : rules.deposit (.system (.upgradeAuthorized hash))
        { world with store := Item.authorizedUpgrade.put hash world.store } = .ok () after) :
      SystemStep rules origin (.authorizeUpgrade hash) world after
  | upgrades {code : Bytes} {world after : World}
      (authorized : Item.authorizedUpgrade.get world.store = some (blake256 code))
      (sets : rules.setCode code
        { world with store := Item.authorizedUpgrade.erase world.store } = .ok () after) :
      SystemStep rules origin (.applyUpgrade code) world after

namespace Rules

variable {origin : Origin Account} {call : SystemCall}

omit [DecidableEq Account] [Word Number] in
private theorem authorizedHash_eq_ok {code : Bytes} {hash : Hash} {store : Store}
    (found : rules.authorizedHash code store = .ok hash) :
    Item.authorizedUpgrade.get store = some (blake256 code) := by
  unfold authorizedHash at found
  cases authorized : Item.authorizedUpgrade.get store with
  | none =>
      rw [authorized] at found
      cases found
  | some expected =>
      rw [authorized] at found
      by_cases same : blake256 code = expected
      · rw [same]
      · simp only [if_neg same] at found
        cases found

theorem systemStep_of_run (tame : call.isRaw = false) {post : PostInfo}
    (run : (rules.runSystemCall origin call).run world = .ok (.ok post) after) :
    SystemStep rules origin call world after := by
  cases call with
  | remark text =>
      obtain ⟨_, _, allows, ends⟩ := Attempt.bind_eq_ok run
      obtain ⟨allowed, rfl⟩ := Attempt.liftExcept_eq_ok allows
      obtain ⟨_, rfl⟩ := Attempt.pure_eq_ok ends
      refine .remarks text ?_
      rintro rfl
      cases allowed
  | remarkWithEvent text =>
      obtain ⟨who, _, allows, later⟩ := Attempt.bind_eq_ok run
      obtain ⟨allowed, rfl⟩ := Attempt.liftExcept_eq_ok allows
      obtain ⟨_, _, deposits, ends⟩ := Attempt.bind_eq_ok later
      obtain ⟨_, rfl⟩ := Attempt.pure_eq_ok ends
      refine .notes text ?_ (Attempt.lift_eq_ok deposits)
      cases origin with
      | signed signer =>
          cases allowed
          rfl
      | root => cases allowed
      | nobody => cases allowed
  | setCode code =>
      obtain ⟨_, _, allows, later⟩ := Attempt.bind_eq_ok run
      obtain ⟨allowed, rfl⟩ := Attempt.liftExcept_eq_ok allows
      obtain ⟨_, _, sets, ends⟩ := Attempt.bind_eq_ok later
      obtain ⟨_, rfl⟩ := Attempt.pure_eq_ok ends
      exact .renews (Origin.requireRoot_eq_ok allowed) (Attempt.lift_eq_ok sets)
  | authorizeUpgrade hash =>
      obtain ⟨_, _, allows, later⟩ := Attempt.bind_eq_ok run
      obtain ⟨allowed, rfl⟩ := Attempt.liftExcept_eq_ok allows
      obtain ⟨_, _, grants, logs⟩ := Attempt.bind_eq_ok later
      have granting := Attempt.lift_eq_ok grants
      rw [Action.change_run] at granting
      cases granting
      obtain ⟨_, _, deposits, ends⟩ := Attempt.bind_eq_ok logs
      obtain ⟨_, rfl⟩ := Attempt.pure_eq_ok ends
      exact .authorizes (Origin.requireRoot_eq_ok allowed) (Attempt.lift_eq_ok deposits)
  | applyUpgrade code =>
      obtain ⟨hash, checked, checks, later⟩ := Attempt.bind_eq_ok run
      have looks : Action.look (rules.authorizedHash code) world = .ok (.ok hash) checked := checks
      rw [Action.look_run] at looks
      injection looks with authorized unmoved
      subst unmoved
      obtain ⟨_, _, uses, writes⟩ := Attempt.bind_eq_ok later
      have erases := Attempt.lift_eq_ok uses
      rw [Action.change_run] at erases
      cases erases
      obtain ⟨_, _, sets, ends⟩ := Attempt.bind_eq_ok writes
      obtain ⟨_, rfl⟩ := Attempt.pure_eq_ok ends
      exact .upgrades (authorizedHash_eq_ok authorized) (Attempt.lift_eq_ok sets)
  | setStorage items => cases tame
  | killStorage keys => cases tame
  | killUnder head subkeys => cases tame

theorem systemStep_of_signer {signer : Option Account} {post : PostInfo}
    (run : (rules.runSystemCall (.ofSigner signer) call).run world = .ok (.ok post) after) :
    SystemStep rules (.ofSigner signer) call world after := by
  cases needs : call.needsRoot with
  | false => exact systemStep_of_run (SystemCall.tame_of_needless needs) run
  | true =>
      rw [runSystemCall_refused signer needs] at run
      cases run

end Rules

/-- As long as nothing is authorized, what a signer has the chain do is seen in the log alone. -/
theorem SystemStep.spares {signer : Option Account} {call : SystemCall}
    (step : SystemStep rules (.ofSigner signer) call world after)
    (nothing : Item.authorizedUpgrade.get world.store = none) {key : Bytes}
    (outside : ¬Under [.events, .eventCount] key) :
    after.store.get? key = world.store.get? key := by
  have unprivileged : Origin.ofSigner signer ≠ .root := by
    cases signer <;> nofun
  cases step with
  | remarks text known => rfl
  | notes text signed deposits =>
      have log : HoldsLog (Under [.events, .eventCount]) :=
        ⟨under_head .events (by decide), under_head .eventCount (by decide)⟩
      exact (Rules.deposit_local log _).spared deposits outside
  | renews root sets => exact absurd root unprivileged
  | authorizes root deposits => exact absurd root unprivileged
  | upgrades authorized sets =>
      rw [nothing] at authorized
      cases authorized

/-! ### The authorization of an upgrade -/

/-- What a call on the chain that succeeds makes of the authorization of an upgrade. -/
inductive Authorization (origin : Origin Account) : SystemCall → Option Hash → Option Hash → Prop
  | keeps {call : SystemCall} {authorized : Option Hash}
      (other : ∀ code, call ≠ .applyUpgrade code) : Authorization origin call authorized authorized
  | grants {hash : Hash} {authorized : Option Hash} (root : origin = .root) :
      Authorization origin (.authorizeUpgrade hash) authorized (some hash)
  | uses (code : Bytes) :
      Authorization origin (.applyUpgrade code) (some (blake256 code)) none

private theorem Item.authorizedUpgrade_put (hash : Hash) (store : Store) :
    Item.authorizedUpgrade.get (Item.authorizedUpgrade.put hash store) = some hash := by
  have readsBack : Item.authorizedUpgrade.codec.decodeFront?
      (Item.authorizedUpgrade.codec.encode hash) = some hash :=
    (Codec.octets_faithful 32).decodeFront?_encode hash trivial
  rw [Slot.get, Slot.stored?_put _ readsBack]
  rfl

private theorem Item.authorizedUpgrade_erase (store : Store) :
    Item.authorizedUpgrade.get (Item.authorizedUpgrade.erase store) = none := by
  rw [Slot.get, Slot.stored?_erase]
  rfl

namespace Rules

variable {origin : Origin Account} {call : SystemCall}

/-- What new code and what is told of it is written under. -/
def codeNames : List Item.Name := [.code, .digest, .events, .eventCount]

private theorem holdsLog_codeNames : HoldsLog (Under codeNames) :=
  ⟨under_head .events (by decide), under_head .eventCount (by decide)⟩

private theorem setCode_authorized {code : Bytes} (run : rules.setCode code world = .ok () after) :
    Item.authorizedUpgrade.get after.store = Item.authorizedUpgrade.get world.store := by
  have isLocal : Action.Local (Under codeNames) (rules.setCode code) :=
    setCode_local (under_head .code (by decide)) (under_head .digest (by decide))
      holdsLog_codeNames code
  exact Slot.get_congr _ (isLocal.spared run (not_under_head .authorizedUpgrade (by decide)))

private theorem deposit_authorized {event : Event Account}
    (run : rules.deposit event world = .ok () after) :
    Item.authorizedUpgrade.get after.store = Item.authorizedUpgrade.get world.store := by
  have isLocal : Action.Local (Under codeNames) (rules.deposit event) :=
    deposit_local holdsLog_codeNames event
  exact Slot.get_congr _ (isLocal.spared run (not_under_head .authorizedUpgrade (by decide)))

theorem authorization_of_step (step : SystemStep rules origin call world after) :
    Authorization origin call (Item.authorizedUpgrade.get world.store)
      (Item.authorizedUpgrade.get after.store) := by
  cases step with
  | remarks text known => exact .keeps nofun
  | notes text signed deposits =>
      rw [deposit_authorized deposits]
      exact .keeps nofun
  | renews root sets =>
      rw [setCode_authorized sets]
      exact .keeps nofun
  | authorizes root deposits =>
      rw [deposit_authorized deposits, Item.authorizedUpgrade_put]
      exact .grants root
  | @upgrades code _ _ authorized sets =>
      rw [setCode_authorized sets, Item.authorizedUpgrade_erase, authorized]
      exact .uses code

/-- A call on the chain fails and leaves the authorization of an upgrade alone, or makes of it what
belongs to the call. -/
theorem dispatchSystem_authorization (tame : call.isRaw = false) {outcome : DispatchOutcome}
    (run : rules.dispatchSystem call origin world = .ok outcome after) :
    outcome.isOk = false ∧
        Item.authorizedUpgrade.get after.store = Item.authorizedUpgrade.get world.store ∨
      outcome.isOk = true ∧ Authorization origin call (Item.authorizedUpgrade.get world.store)
        (Item.authorizedUpgrade.get after.store) := by
  have isLocal : Attempt.Local (fun _ => True) (rules.runSystemCall origin call) :=
    runSystemCall_local_of_tame ⟨trivial, trivial, trivial⟩ ⟨trivial, trivial⟩ origin tame
  have apart : Item.authorizedUpgrade.key ≠ Layer.levelKey := by
    have different : Item.Name.authorizedUpgrade ≠ .level := nofun
    exact Item.Name.head_ne different
  rcases Call.layered_cases isLocal run with
    ⟨⟨_, rfl⟩, reverted⟩ | ⟨_, _, rfl, inside, leaves⟩
  · exact Or.inl ⟨rfl, Slot.get_congr _ (reverted _ apart)⟩
  · have authorization := authorization_of_step (systemStep_of_run tame inside)
    rw [Slot.get_congr _ (Layer.entered_get? world apart), ← Slot.get_congr _ (leaves _ apart)]
      at authorization
    exact Or.inr ⟨rfl, authorization⟩

end Rules

/-! ### Calls that are made directly -/

/-- A call on the chain that is made directly, by whatever origin, with what became of it. -/
structure DirectCall (Account : Type) where
  call : SystemCall
  origin : Origin Account
  before : World
  outcome : DispatchOutcome
  after : World

/-- Calls on the chain that are made directly, one after the other. -/
def Rules.Directs (rules : Rules Account Number) : Store → List (DirectCall Account) → Prop
  | _, [] => True
  | store, direct :: later =>
      direct.before.store.visible = store.visible ∧
        rules.dispatchSystem direct.call direct.origin direct.before =
          .ok direct.outcome direct.after ∧
        Directs rules direct.after.store later

namespace DirectCall

variable {store : Store} {earlier between later : List (DirectCall Account)}
variable {first second : DirectCall Account}

/-- The call has brought the code of an upgrade, and it was applied. -/
structure Applies (direct : DirectCall Account) (code : Bytes) : Prop where
  call : direct.call = .applyUpgrade code
  succeeds : direct.outcome.isOk = true

structure Authorizes (direct : DirectCall Account) (hash : Hash) : Prop where
  call : direct.call = .authorizeUpgrade hash
  root : direct.origin = .root
  succeeds : direct.outcome.isOk = true

theorem directs_cons {call : SystemCall} {origin : Origin Account} {before after : World}
    {outcome : DispatchOutcome} (run : rules.dispatchSystem call origin before = .ok outcome after)
    (rest : rules.Directs after.store later) :
    rules.Directs before.store (⟨call, origin, before, outcome, after⟩ :: later) :=
  ⟨rfl, run, rest⟩

private theorem directs_of_append (directs : rules.Directs store (earlier ++ later)) :
    ∃ reached, rules.Directs reached later := by
  induction earlier generalizing store with
  | nil => exact ⟨store, directs⟩
  | cons direct others ih => exact ih directs.2.2

private theorem authorized_before {direct : DirectCall Account} {code : Bytes}
    (dispatched : rules.dispatchSystem direct.call direct.origin direct.before =
      .ok direct.outcome direct.after) (applies : direct.Applies code) :
    Item.authorizedUpgrade.get direct.before.store = some (blake256 code) ∧
      Item.authorizedUpgrade.get direct.after.store = none := by
  obtain ⟨call, origin, before, outcome, after⟩ := direct
  obtain ⟨rfl, succeeds⟩ := applies
  rcases Rules.dispatchSystem_authorization rfl dispatched with ⟨fails, _⟩ | ⟨_, authorization⟩
  · rw [succeeds] at fails
    cases fails
  · generalize Item.authorizedUpgrade.get before.store = one at authorization ⊢
    generalize Item.authorizedUpgrade.get after.store = two at authorization ⊢
    cases authorization with
    | keeps other => exact absurd rfl (other code)
    | uses => exact ⟨rfl, rfl⟩

private theorem authorizes_between {code : Bytes}
    (tame : ∀ direct ∈ between, direct.call.isRaw = false)
    (directs : rules.Directs store (between ++ second :: later)) (applies : second.Applies code)
    (other : Item.authorizedUpgrade.get store ≠ some (blake256 code)) :
    ∃ direct ∈ between, direct.Authorizes (blake256 code) := by
  induction between generalizing store with
  | nil =>
      obtain ⟨same, dispatched, _⟩ := directs
      have authorized := (authorized_before dispatched applies).1
      rw [Slot.seen_get _ _ _ same] at authorized
      exact absurd authorized other
  | cons direct others ih =>
      obtain ⟨same, dispatched, rest⟩ := directs
      obtain ⟨isTame, othersTame⟩ := List.forall_mem_cons.mp tame
      have continues : Item.authorizedUpgrade.get direct.after.store ≠ some (blake256 code) →
          ∃ found ∈ direct :: others, found.Authorizes (blake256 code) := by
        intro still
        obtain ⟨found, member, authorizes⟩ := ih othersTame rest still
        exact ⟨found, List.mem_cons_of_mem _ member, authorizes⟩
      rw [← Slot.seen_get Item.authorizedUpgrade _ _ same] at other
      rcases Rules.dispatchSystem_authorization isTame dispatched with
        ⟨_, kept⟩ | ⟨succeeds, authorization⟩
      · rw [kept] at continues
        exact continues other
      · by_cases grants : direct.Authorizes (blake256 code)
        · exact ⟨direct, List.mem_cons_self, grants⟩
        · apply continues
          intro authorized
          rw [authorized] at authorization
          generalize calls : direct.call = call at authorization
          generalize Item.authorizedUpgrade.get direct.before.store = before at authorization other
          cases authorization with
          | keeps _ => exact other rfl
          | grants root => exact grants ⟨calls, root, succeeds⟩

/-- Between two upgrades that are applied the chain itself has authorized the second. -/
theorem authorized_again {firstCode secondCode : Bytes}
    (tame : ∀ direct ∈ between, direct.call.isRaw = false)
    (directs : rules.Directs store (earlier ++ first :: (between ++ second :: later)))
    (firstApplies : first.Applies firstCode) (secondApplies : second.Applies secondCode) :
    ∃ direct ∈ between, direct.Authorizes (blake256 secondCode) := by
  obtain ⟨_, _, dispatched, rest⟩ := directs_of_append directs
  have used := (authorized_before dispatched firstApplies).2
  apply authorizes_between tame rest secondApplies
  rw [used]
  exact nofun

theorem authorized_of_member {direct : DirectCall Account} {code : Bytes}
    {directs : List (DirectCall Account)} (run : rules.Directs store directs)
    (member : direct ∈ directs) (applies : direct.Applies code) :
    Item.authorizedUpgrade.get direct.before.store = some (blake256 code) := by
  obtain ⟨_, _, rfl⟩ := List.append_of_mem member
  obtain ⟨_, _, dispatched, _⟩ := directs_of_append run
  exact (authorized_before dispatched applies).1

end DirectCall

end StateTransition
