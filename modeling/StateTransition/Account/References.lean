import StateTransition.Event.Log

set_option autoImplicit false

/-! References to accounts. Something that provides for an account lets it exist; the last
provider cannot leave as long as something depends on the account. -/

namespace StateTransition

inductive Arrival where
  | created
  | existed
deriving DecidableEq

/-- Whether giving up a reference was the end of the account. -/
inductive Departure where
  | reaped
  | exists
deriving DecidableEq

namespace AccountInfo

variable {Number : Type}

def isProvided (info : AccountInfo Number) : Bool := info.providers != 0 || info.sufficients != 0

def referenceCount (info : AccountInfo Number) : RefCount := info.providers + info.sufficients

def withConsumer (info : AccountInfo Number) : Except DispatchError (AccountInfo Number) :=
  if 0 < info.providers then
    .ok { info with consumers := Word.saturatingAdd info.consumers 1 }
  else .error .noProviders

def withoutConsumer (info : AccountInfo Number) : AccountInfo Number :=
  { info with consumers := Word.saturatingSub info.consumers 1 }

def withProvider (info : AccountInfo Number) : Arrival × AccountInfo Number :=
  if info.isProvided then
    (.existed, { info with providers := Word.saturatingAdd info.providers 1 })
  else (.created, { info with providers := 1 })

/-- Gains a sufficient reference. Whether the account is there is told by the sum of what provides for
it, which is that of the words. -/
def withSufficient (info : AccountInfo Number) : Arrival × AccountInfo Number :=
  if info.referenceCount = 0 then (.created, { info with sufficients := 1 })
  else (.existed, { info with sufficients := Word.saturatingAdd info.sufficients 1 })

/-- Stops providing for an account, which is gone if that was the last it had. An account
without providers is taken for one with a single provider. -/
def withoutProvider (info : AccountInfo Number) :
    Except DispatchError (Departure × Option (AccountInfo Number)) :=
  let providers := if info.providers = 0 then 1 else info.providers
  if providers = 1 ∧ 0 < info.consumers then .error .consumerRemaining
  else if providers = 1 ∧ info.sufficients = 0 then .ok (.reaped, none)
  else .ok (.exists, some { info with providers := Word.saturatingSub providers 1 })

def withoutSufficient (info : AccountInfo Number) : Departure × Option (AccountInfo Number) :=
  if info.sufficients ≤ 1 ∧ info.providers = 0 then (.reaped, none)
  else (.exists, some { info with sufficients := Word.saturatingSub info.sufficients 1 })

def canLoseProvider (info : AccountInfo Number) : Bool :=
  info.consumers == 0 || 1 < info.providers

def canGainConsumer (info : AccountInfo Number) : Bool := 0 < info.providers

def withTransaction [Word Number] (info : AccountInfo Number) :
    Except Trap (AccountInfo Number) :=
  match Word.checkedAdd? info.nonce Word.one with
  | some nonce => .ok { info with nonce }
  | none => .error .additionOverflow

end AccountInfo

namespace Rules

variable {Account Number : Type} [DecidableEq Account] [Word Number]
variable (rules : Rules Account Number)

def accountSlot (who : Account) : Slot (AccountInfo Number) (AccountInfo Number) :=
  (Item.account rules.account).row who

def accountInfo (who : Account) (store : Store) : AccountInfo Number :=
  (rules.accountSlot who).get store

def afterCreation (who : Account) : Action Unit := do
  rules.accountCreated who
  rules.deposit (.system (.newAccount who))

def afterDeath (who : Account) : Action Unit := do
  rules.accountKilled who
  rules.deposit (.system (.killedAccount who))

def settleArrival (who : Account) : Arrival → Action Arrival
  | .created => do
      rules.afterCreation who
      return .created
  | .existed => return .existed

def incrementConsumers (who : Account) : Action (Except DispatchError Unit) :=
  Action.update ((rules.accountSlot who).tryModify fun info => do return ((), ← info.withConsumer))

def decrementConsumers (who : Account) : Action Unit :=
  Action.update ((rules.accountSlot who).modify fun info => ((), info.withoutConsumer))

def incrementProviders (who : Account) : Action Arrival := do
  rules.settleArrival who (← Action.update ((rules.accountSlot who).modify (·.withProvider)))

def incrementSufficients (who : Account) : Action Arrival := do
  rules.settleArrival who (← Action.update ((rules.accountSlot who).modify (·.withSufficient)))

/-- Gives up a provider. Without an account there is nothing to give up. -/
def decrementProviders (who : Account) : Action (Except DispatchError Departure) := do
  let existed ← Action.look fun store => ((rules.accountSlot who).stored? store).isSome
  let outcome ← Action.update ((rules.accountSlot who).tryModifyStored fun
    | some info => info.withoutProvider
    | none => .ok (.reaped, none))
  match outcome with
  | .ok .reaped =>
      if existed then rules.afterDeath who
      return .ok .reaped
  | other => return other

/-- Gives up a sufficient reference. Without an account there is nothing to give up. -/
def decrementSufficients (who : Account) : Action Departure := do
  let existed ← Action.look fun store => ((rules.accountSlot who).stored? store).isSome
  let outcome ← Action.update ((rules.accountSlot who).modifyStored fun
    | some info => info.withoutSufficient
    | none => (.reaped, none))
  if outcome = .reaped ∧ existed then rules.afterDeath who
  return outcome

def incrementNonce (who : Account) : Action Unit := do
  let info ← Action.ask fun store => (rules.accountInfo who store).withTransaction
  Action.change ((rules.accountSlot who).put info)

end Rules

end StateTransition
