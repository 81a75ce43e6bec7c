import StateTransition.Call.Balances
import StateTransition.Call.System
import StateTransition.Proofs.Account.Frame
import StateTransition.Proofs.Layer
import StateTransition.Timestamp

set_option autoImplicit false

/-! What calls may change. A call that comes from a transaction is never made by the chain
itself, so it cannot write just anywhere; and a call that fails changes nothing. -/

namespace StateTransition

variable {Account Number Index α : Type} [Word Number]
variable {keys : Bytes → Prop}

def SystemCall.isRaw : SystemCall → Bool
  | .setStorage _ | .killStorage _ | .killUnder _ _ => true
  | _ => false

namespace Origin

variable {signer : Option Account}

theorem requireRoot_ofSigner (signer : Option Account) :
    (ofSigner signer).requireRoot = .error .badOrigin := by
  cases signer <;> rfl

theorem requireRoot_eq_ok {origin : Origin Account} {answer : Unit}
    (allowed : origin.requireRoot = .ok answer) : origin = .root := by
  cases origin with
  | root => rfl
  | signed who => cases allowed
  | nobody => cases allowed

theorem requireRoot_bind (signer : Option Account) (next : Unit → Attempt DispatchError α) :
    ((liftM (ofSigner signer).requireRoot : Attempt DispatchError Unit) >>= next) =
      throw .badOrigin := by
  rw [requireRoot_ofSigner]
  rfl

end Origin

theorem Attempt.Local.requireRoot (signer : Option Account)
    (next : Unit → Attempt DispatchError α) :
    Attempt.Local keys
      ((liftM (Origin.ofSigner signer).requireRoot : Attempt DispatchError Unit) >>= next) := by
  rw [Origin.requireRoot_bind]
  exact Attempt.Local.throw _

namespace Call

theorem layered_local (level : keys Layer.levelKey) {body : Attempt DispatchError PostInfo}
    (isLocal : Attempt.Local keys body) : Action.Local keys (layered body) :=
  Layer.Local.keepingSuccess level _ (isLocal.adapt _)

/-- What comes of a call is what comes of its body, unless too many layers are open. -/
theorem layered_run (body : Attempt DispatchError PostInfo) (world : World) :
    layered body world =
      if Layer.limit ≤ Layer.level world.store then
        .ok (.error (.ofError (.layer .limitReached))) world
      else
        match body.run (Layer.enteredWorld world) with
        | .ok outcome after => .ok (outcome.mapError .ofError)
            { after with store := Layer.leave outcome.isOk after.store }
        | .error cause after =>
            .error cause { after with store := Layer.leave false after.store } := by
  have adapted : (body.adapt DispatchFailure.ofError).run (Layer.enteredWorld world) =
      (Except.mapError DispatchFailure.ofError <$> body.run) (Layer.enteredWorld world) := rfl
  unfold layered
  rw [Layer.keepingSuccess_run, adapted, Action.map_run]
  cases body.run (Layer.enteredWorld world) with
  | error cause after => rfl
  | ok outcome after => cases outcome <;> rfl

theorem layered_failed {body : Attempt DispatchError PostInfo} {world after : World}
    {failure : DispatchFailure} (isLocal : Attempt.Local keys body)
    (absent : world.store.get? Layer.levelKey = none)
    (run : layered body world = .ok (.error failure) after) :
    failure.post = .unchanged ∧ after.store.visible = world.store.visible := by
  obtain ⟨⟨ended, failed⟩, same⟩ := Layer.keepingSuccess_failed (isLocal.adapt _) absent run
  obtain ⟨outcome, _, maps⟩ := Action.map_eq_ok failed
  cases outcome with
  | ok post => cases maps
  | error cause =>
      cases maps
      exact ⟨rfl, same⟩

theorem layered_cases {body : Attempt DispatchError PostInfo} {world after : World}
    {outcome : DispatchOutcome} (isLocal : Attempt.Local keys body)
    (run : layered body world = .ok outcome after) :
    (∃ error, outcome = .error (.ofError error)) ∧
        (∀ key, key ≠ Layer.levelKey → after.store.get? key = world.store.get? key) ∨
      ∃ post ended, outcome = .ok post ∧
        body.run (Layer.enteredWorld world) = .ok (.ok post) ended ∧
        ∀ key, key ≠ Layer.levelKey → after.store.get? key = ended.store.get? key := by
  rcases Layer.keepingSuccess_cases (isLocal.adapt _) run with
    ⟨⟨cause, fails, ⟨error, rfl⟩ | ⟨_, adapts⟩⟩, reverted⟩ | ⟨post, ended, succeeds, adapts, leaves⟩
  · exact Or.inl ⟨⟨error, fails⟩, reverted⟩
  · obtain ⟨given, _, maps⟩ := Action.map_eq_ok adapts
    cases given with
    | error error =>
        cases maps
        exact Or.inl ⟨⟨error, fails⟩, reverted⟩
    | ok found => cases maps
  · obtain ⟨given, inside, maps⟩ := Action.map_eq_ok adapts
    cases given with
    | error cause => cases maps
    | ok found =>
        cases maps
        exact Or.inr ⟨_, ended, succeeds, inside, leaves⟩

def Reports (post : PostInfo) (body : Attempt DispatchError PostInfo) : Prop :=
  ∀ world found after, body.run world = .ok (.ok found) after → found = post

namespace Reports

theorem pure (post : PostInfo) : Reports post (Pure.pure post) := by
  intro world found after run
  exact (Attempt.pure_eq_ok run).1.symm

theorem bind {post : PostInfo} {first : Attempt DispatchError α}
    {next : α → Attempt DispatchError PostInfo} (reports : ∀ found, Reports post (next found)) :
    Reports post (first >>= next) := by
  intro world found after run
  obtain ⟨between, middle, _, later⟩ := Attempt.bind_eq_ok run
  exact reports between middle found after later

theorem ite {post : PostInfo} {condition : Prop} [Decidable condition]
    {first second : Attempt DispatchError PostInfo} (atFirst : Reports post first)
    (atSecond : Reports post second) : Reports post (if condition then first else second) := by
  by_cases holds : condition
  · rw [if_pos holds]
    exact atFirst
  · rw [if_neg holds]
    exact atSecond

end Reports

theorem layered_reports {body : Attempt DispatchError PostInfo} {post : PostInfo}
    (reports : Reports post body) (isLocal : Attempt.Local keys body) {world after : World}
    {outcome : DispatchOutcome} (run : layered body world = .ok outcome after) :
    outcome.post = if outcome.isOk then post else .unchanged := by
  rcases layered_cases isLocal run with ⟨⟨error, rfl⟩, _⟩ | ⟨found, ended, rfl, ran, _⟩
  · rfl
  · exact reports _ found ended ran

end Call

/-- What a call on the chain reports if it succeeds. Only to bring an upgrade is free. -/
def SystemCall.successReport : SystemCall → PostInfo
  | .applyUpgrade _ => ⟨none, .no⟩
  | _ => .unchanged

/-- What calls on the chain write when it does not make them itself. -/
structure HoldsUpgrade (keys : Bytes → Prop) : Prop where
  code : keys Item.codeKey
  digest : keys Item.digest.key
  authorized : keys Item.authorizedUpgrade.key

structure HoldsTime (keys : Bytes → Prop) : Prop where
  now : keys Timestamp.now.key
  isSet : keys Timestamp.isSet.key

variable [DecidableEq Account]

namespace Rules

variable {rules : Rules Account Number}

theorem setCode_local (code : keys Item.codeKey) (digest : keys Item.digest.key)
    (log : HoldsLog keys) (bytes : Bytes) : Action.Local keys (rules.setCode bytes) := by
  refine (Action.Local.change (Store.Local.put code bytes)).bind fun _ => ?_
  refine (Action.Local.change (Slot.modify_local digest _)).bind fun _ => ?_
  exact deposit_local log _

omit [DecidableEq Account] [Word Number] in
theorem seen_authorizedHash (code : Bytes) : Store.Seen (rules.authorizedHash code) := by
  have seen : Store.Seen Item.authorizedUpgrade.get := Slot.seen_get _
  intro left right same
  have authorized := seen left right same
  unfold authorizedHash
  rw [authorized]

theorem runSystemCall_local_of_tame (held : HoldsUpgrade keys) (log : HoldsLog keys)
    (origin : Origin Account) {call : SystemCall} (tame : call.isRaw = false) :
    Attempt.Local keys (rules.runSystemCall origin call) := by
  cases call with
  | remark text =>
      exact (Attempt.Local.liftExcept _).bind fun _ => Attempt.Local.pure _
  | remarkWithEvent text =>
      refine (Attempt.Local.liftExcept _).bind fun who => ?_
      exact (Attempt.Local.lift (deposit_local log _)).bind fun _ => Attempt.Local.pure _
  | applyUpgrade code =>
      refine (Attempt.Local.mk (Action.Local.look (seen_authorizedHash code))).bind fun _ => ?_
      refine (Attempt.Local.lift
        (Action.Local.change (Slot.erase_local held.authorized))).bind fun _ => ?_
      exact (Attempt.Local.lift (setCode_local held.code held.digest log code)).bind fun _ =>
        Attempt.Local.pure _
  | setCode code =>
      refine (Attempt.Local.liftExcept _).bind fun _ => ?_
      exact (Attempt.Local.lift (setCode_local held.code held.digest log code)).bind fun _ =>
        Attempt.Local.pure _
  | authorizeUpgrade hash =>
      refine (Attempt.Local.liftExcept _).bind fun _ => ?_
      refine (Attempt.Local.lift
        (Action.Local.change (Slot.put_local held.authorized hash))).bind fun _ => ?_
      exact (Attempt.Local.lift (deposit_local log _)).bind fun _ => Attempt.Local.pure _
  | setStorage items => cases tame
  | killStorage removed => cases tame
  | killUnder head subkeys => cases tame

theorem runSystemCall_local (held : HoldsUpgrade keys) (log : HoldsLog keys)
    (signer : Option Account) (call : SystemCall) :
    Attempt.Local keys (rules.runSystemCall (.ofSigner signer) call) := by
  cases raw : call.isRaw with
  | false => exact runSystemCall_local_of_tame held log (.ofSigner signer) raw
  | true =>
      cases call with
      | setStorage items => exact Attempt.Local.requireRoot signer _
      | killStorage removed => exact Attempt.Local.requireRoot signer _
      | killUnder head subkeys => exact Attempt.Local.requireRoot signer _
      | _ => cases raw

theorem runBalanceCall_local (books : ∀ who, rules.HoldsBooks who keys) (signer : Option Account)
    (call : BalanceCall (Address Account Index)) :
    Attempt.Local keys (rules.runBalanceCall (.ofSigner signer) call) := by
  cases call with
  | transferAllowDeath target amount =>
      refine (Attempt.Local.liftExcept _).bind fun source => ?_
      refine (Attempt.Local.liftExcept _).bind fun target => ?_
      exact (transfer_local (books source) (books target) amount _).bind fun _ =>
        Attempt.Local.pure _
  | transferKeepAlive target amount =>
      refine (Attempt.Local.liftExcept _).bind fun source => ?_
      refine (Attempt.Local.liftExcept _).bind fun target => ?_
      exact (transfer_local (books source) (books target) amount _).bind fun _ =>
        Attempt.Local.pure _
  | forceTransfer source target amount => exact Attempt.Local.requireRoot signer _
  | forceSetBalance who free => exact Attempt.Local.requireRoot signer _

/-! ### Calls that succeed -/

open Call (Reports)

theorem runSystemCall_reports (origin : Origin Account) (call : SystemCall) :
    Reports call.successReport (rules.runSystemCall origin call) := by
  have reports : Reports .unchanged (pure .unchanged) := Reports.pure .unchanged
  cases call with
  | remark text => exact Reports.bind fun _ => reports
  | setCode code => exact Reports.bind fun _ => Reports.bind fun _ => reports
  | setStorage items => exact Reports.bind fun _ => Reports.bind fun _ => reports
  | killStorage removed => exact Reports.bind fun _ => Reports.bind fun _ => reports
  | killUnder head subkeys => exact Reports.bind fun _ => Reports.bind fun _ => reports
  | remarkWithEvent text => exact Reports.bind fun _ => Reports.bind fun _ => reports
  | authorizeUpgrade hash =>
      exact Reports.bind fun _ => Reports.bind fun _ => Reports.bind fun _ => reports
  | applyUpgrade code =>
      exact Reports.bind fun _ => Reports.bind fun _ => Reports.bind fun _ => Reports.pure _

theorem runBalanceCall_reports (origin : Origin Account)
    (call : BalanceCall (Address Account Index)) :
    Reports .unchanged (rules.runBalanceCall origin call) := by
  have reports : Reports .unchanged (pure .unchanged) := Reports.pure .unchanged
  cases call with
  | transferAllowDeath target amount =>
      exact Reports.bind fun _ => Reports.bind fun _ => Reports.bind fun _ => reports
  | transferKeepAlive target amount =>
      exact Reports.bind fun _ => Reports.bind fun _ => Reports.bind fun _ => reports
  | forceTransfer source target amount =>
      exact Reports.bind fun _ => Reports.bind fun _ => Reports.bind fun _ =>
        Reports.bind fun _ => reports
  | forceSetBalance who free =>
      exact Reports.bind fun _ => Reports.bind fun _ => Reports.bind fun _ => reports

/-- What a call on balances does for a signer is a transfer: of what the signer owns, to the account
at an address. -/
structure Sends (rules : Rules Account Number) (source : Account)
    (call : BalanceCall (Address Account Index)) (target : Account) (amount : Balance)
    (existence : Existence) (before after : World) : Prop where
  called : ∃ address : Address Account Index, address.resolve? = some target ∧
    (existence = .allowDeath ∧ call = .transferAllowDeath address amount ∨
      existence = .keepAlive ∧ call = .transferKeepAlive address amount)
  run : (rules.transfer source target amount existence).run before = .ok (.ok ()) after

theorem runBalanceCall_sends {signer : Option Account}
    {call : BalanceCall (Address Account Index)} {post : PostInfo} {before after : World}
    (run : (rules.runBalanceCall (.ofSigner signer) call).run before = .ok (.ok post) after) :
    ∃ source target amount existence, signer = some source ∧
      rules.Sends source call target amount existence before after := by
  have transferred : ∀ {address : Address Account Index} {amount : Balance} {existence : Existence},
      (do
        let source ← (Origin.ofSigner signer).requireSigned
        rules.transfer source (← accountAt address) amount existence
        return PostInfo.unchanged : Attempt DispatchError PostInfo).run before =
          .ok (.ok post) after →
      ∃ source target, signer = some source ∧ address.resolve? = some target ∧
        (rules.transfer source target amount existence).run before = .ok (.ok ()) after := by
    intro address amount existence sends
    obtain ⟨source, _, signs, fromSource⟩ := Attempt.bind_eq_ok sends
    obtain ⟨signed, rfl⟩ := Attempt.liftExcept_eq_ok signs
    obtain ⟨target, _, finds, toTarget⟩ := Attempt.bind_eq_ok fromSource
    obtain ⟨found, rfl⟩ := Attempt.liftExcept_eq_ok finds
    obtain ⟨_, moved, moves, ends⟩ := Attempt.bind_eq_ok toTarget
    obtain ⟨_, rfl⟩ := Attempt.pure_eq_ok ends
    refine ⟨source, target, ?_, ?_, moves⟩
    · cases signer with
      | none => cases signed
      | some signer =>
          cases signed
          rfl
    · unfold accountAt at found
      cases resolves : address.resolve? with
      | none =>
          rw [resolves] at found
          cases found
      | some place =>
          rw [resolves] at found
          cases found
          rfl
  cases call with
  | transferAllowDeath address amount =>
      obtain ⟨source, target, signs, resolves, moves⟩ := transferred run
      exact ⟨source, target, amount, .allowDeath, signs,
        ⟨address, resolves, Or.inl ⟨rfl, rfl⟩⟩, moves⟩
  | transferKeepAlive address amount =>
      obtain ⟨source, target, signs, resolves, moves⟩ := transferred run
      exact ⟨source, target, amount, .keepAlive, signs,
        ⟨address, resolves, Or.inr ⟨rfl, rfl⟩⟩, moves⟩
  | forceTransfer source target amount =>
      unfold runBalanceCall at run
      rw [Origin.requireRoot_ofSigner] at run
      cases run
  | forceSetBalance who free =>
      unfold runBalanceCall at run
      rw [Origin.requireRoot_ofSigner] at run
      cases run

end Rules

namespace Timestamp

theorem seen_follows (moment : Moment) : Store.Seen (follows moment) :=
  (Slot.seen_get now).map fun previous =>
    previous == 0 || Word.saturatingAdd previous leastPeriod ≤ moment

omit [DecidableEq Account] in
theorem run_local (held : HoldsTime keys) (origin : Origin Account) (call : TimestampCall) :
    Attempt.Local keys (run origin call) := by
  obtain ⟨moment⟩ := call
  have forced : Attempt.Local keys
      ((liftM (Action.change (force moment)) : Attempt DispatchError Unit) >>= fun _ =>
        pure PostInfo.unchanged) :=
    (Attempt.Local.lift (Action.Local.change
      ((Slot.put_local held.now moment).comp (Slot.put_local held.isSet true)))).bind fun _ =>
      Attempt.Local.pure PostInfo.unchanged
  have stopped : ∀ cause, Attempt.Local keys
      (ExceptT.lift (Action.trap cause) : Attempt DispatchError Unit) := fun cause =>
    Attempt.Local.lift (Action.Local.trap cause)
  have timed : ∀ inTime : Bool, Attempt.Local keys do
      if !inTime then ExceptT.lift (Action.trap .timestampTooEarly)
      Action.change (force moment)
      return PostInfo.unchanged := fun inTime =>
    ((stopped .timestampTooEarly).bind fun _ => forced).ite forced
  refine (Attempt.Local.liftExcept _).bind fun _ => ?_
  refine (Attempt.Local.look (Slot.seen_exists? isSet)).bind fun already => ?_
  have once : Attempt.Local keys do
      if !(← Attempt.look (follows moment)) then ExceptT.lift (Action.trap .timestampTooEarly)
      Action.change (force moment)
      return PostInfo.unchanged := (Attempt.Local.look (seen_follows moment)).bind timed
  exact ((stopped .timestampRepeated).bind fun _ => once).ite once

omit [DecidableEq Account] in
theorem run_reports (origin : Origin Account) (call : TimestampCall) :
    Call.Reports .unchanged (run origin call) := by
  obtain ⟨moment⟩ := call
  have forced : Call.Reports .unchanged
      ((liftM (Action.change (force moment)) : Attempt DispatchError Unit) >>= fun _ =>
        pure PostInfo.unchanged) := Call.Reports.bind fun _ => Call.Reports.pure .unchanged
  have once : Call.Reports .unchanged do
      if !(← Attempt.look (follows moment)) then ExceptT.lift (Action.trap .timestampTooEarly)
      Action.change (force moment)
      return PostInfo.unchanged :=
    Call.Reports.bind fun _ => (Call.Reports.bind fun _ => forced).ite forced
  refine Call.Reports.bind fun _ => Call.Reports.bind fun _ => ?_
  exact (Call.Reports.bind fun _ => once).ite once

end Timestamp

end StateTransition
