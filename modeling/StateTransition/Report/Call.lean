import StateTransition.Call.Balances
import StateTransition.Call.System
import StateTransition.Report.Chain

set_option autoImplicit false

/-! Reports of calls. A call is an object with one field, named for its part of the chain and
for what it does, that holds its arguments. -/

namespace StateTransition

namespace SystemCall

instance : Report SystemCall where
  report
    | .remark text => .single "System.remark" (report text)
    | .setCode code => .single "System.set_code" (report code)
    | .setStorage items => .single "System.set_storage" (report items)
    | .killStorage keys => .single "System.kill_storage" (report keys)
    | .killUnder head subkeys => .single "System.kill_prefix" (report (head, subkeys))
    | .remarkWithEvent text => .single "System.remark_with_event" (report text)
    | .authorizeUpgrade hash => .single "System.authorize_upgrade" (report hash)
    | .applyUpgrade code => .single "System.apply_authorized_upgrade" (report code)

def request? (name : String) (document : Json) : Option SystemCall :=
  match name with
  | "System.remark" => (StateTransition.request? document).map .remark
  | "System.set_code" => (StateTransition.request? document).map .setCode
  | "System.set_storage" => (StateTransition.request? document).map .setStorage
  | "System.kill_storage" => (StateTransition.request? document).map .killStorage
  | "System.kill_prefix" =>
      (StateTransition.request? document).map fun parts : Bytes × UInt32 =>
        .killUnder parts.1 parts.2
  | "System.remark_with_event" => (StateTransition.request? document).map .remarkWithEvent
  | "System.authorize_upgrade" => (StateTransition.request? document).map .authorizeUpgrade
  | "System.apply_authorized_upgrade" => (StateTransition.request? document).map .applyUpgrade
  | _ => none

end SystemCall

namespace BalanceCall

variable {Target : Type}

instance [Report Target] : Report (BalanceCall Target) where
  report
    | .transferAllowDeath target amount =>
        .single "Balances.transfer_allow_death" (report (target, amount))
    | .forceTransfer source target amount =>
        .single "Balances.force_transfer" (.list [report source, report target, report amount])
    | .transferKeepAlive target amount =>
        .single "Balances.transfer_keep_alive" (report (target, amount))
    | .forceSetBalance who free => .single "Balances.force_set_balance" (report (who, free))

def request? (target : Json → Option Target) (name : String) (document : Json) :
    Option (BalanceCall Target) := do
  match name, ← document.items? with
  | "Balances.transfer_allow_death", [receiver, amount] =>
      return .transferAllowDeath (← target receiver) (← StateTransition.request? amount)
  | "Balances.force_transfer", [source, receiver, amount] =>
      return .forceTransfer (← target source) (← target receiver)
        (← StateTransition.request? amount)
  | "Balances.transfer_keep_alive", [receiver, amount] =>
      return .transferKeepAlive (← target receiver) (← StateTransition.request? amount)
  | "Balances.force_set_balance", [who, free] =>
      return .forceSetBalance (← target who) (← StateTransition.request? free)
  | _, _ => none

end BalanceCall

end StateTransition
