import StateTransition.Account.Balance
import StateTransition.Account.Id
import StateTransition.Call.Layered
import StateTransition.Origin

set_option autoImplicit false

/-! Calls on balances. An amount can be sent with or without the sender's death, and the
chain itself may move and set balances. -/

namespace StateTransition

/-- `Target` is the type of addresses. -/
inductive BalanceCall (Target : Type) where
  | transferAllowDeath (target : Target) (amount : Balance)
  | forceTransfer (source target : Target) (amount : Balance)
  | transferKeepAlive (target : Target) (amount : Balance)
  | forceSetBalance (who : Target) (free : Balance)
deriving DecidableEq

namespace BalanceCall

variable {Target : Type}

def codec (target : Codec Target) : Codec (BalanceCall Target) :=
  let amount : Codec (Target × Balance) := target.pair .word
  .tagged
    [.carrying 0 amount (fun parts => .transferAllowDeath parts.1 parts.2)
       (fun | .transferAllowDeath target sent => some (target, sent) | _ => none),
     .carrying 2 (target.pair amount) (fun parts => .forceTransfer parts.1 parts.2.1 parts.2.2)
       (fun | .forceTransfer source target sent => some (source, target, sent) | _ => none),
     .carrying 3 amount (fun parts => .transferKeepAlive parts.1 parts.2)
       (fun | .transferKeepAlive target sent => some (target, sent) | _ => none),
     .carrying 8 amount (fun parts => .forceSetBalance parts.1 parts.2)
       (fun | .forceSetBalance who free => some (who, free) | _ => none)]

/-- Weights by measurement; `unit` is what an access to the store weighs. -/
def weight (unit : StoreWeight) : BalanceCall Target → Weight
  | .transferAllowDeath _ _ =>
      (Weight.saturatingAdd ⟨47552000, 3593⟩ (unit.reads 1)).saturatingAdd (unit.writes 1)
  | .forceTransfer _ _ _ =>
      (Weight.saturatingAdd ⟨48743000, 6196⟩ (unit.reads 2)).saturatingAdd (unit.writes 2)
  | .transferKeepAlive _ _ =>
      (Weight.saturatingAdd ⟨37286000, 3593⟩ (unit.reads 1)).saturatingAdd (unit.writes 1)
  | .forceSetBalance _ _ =>
      (Weight.saturatingAdd ⟨17212000, 3593⟩ (unit.reads 2)).saturatingAdd (unit.writes 2)

def info (unit : StoreWeight) (call : BalanceCall Target) : DispatchInfo :=
  ⟨call.weight unit, .normal, .yes⟩

end BalanceCall

namespace Rules

variable {Account Number Index : Type} [DecidableEq Account] [Word Number]
variable (rules : Rules Account Number)

def accountAt (address : Address Account Index) : Except DispatchError Account :=
  match address.resolve? with
  | some who => .ok who
  | none => .error .cannotLookup

/-- What a call on balances does, without a layer of its own. -/
def runBalanceCall (origin : Origin Account) :
    BalanceCall (Address Account Index) → Attempt DispatchError PostInfo
  | .transferAllowDeath target amount => do
      let source ← origin.requireSigned
      rules.transfer source (← accountAt target) amount .allowDeath
      return .unchanged
  | .forceTransfer source target amount => do
      origin.requireRoot
      let source ← accountAt source
      rules.transfer source (← accountAt target) amount .allowDeath
      return .unchanged
  | .transferKeepAlive target amount => do
      let source ← origin.requireSigned
      rules.transfer source (← accountAt target) amount .keepAlive
      return .unchanged
  | .forceSetBalance who free => do
      origin.requireRoot
      rules.forceBalance (← accountAt who) free
      return .unchanged

def dispatchBalances (call : BalanceCall (Address Account Index)) (origin : Origin Account) :
    Action DispatchOutcome :=
  Call.layered (rules.runBalanceCall origin call)

end Rules

end StateTransition
