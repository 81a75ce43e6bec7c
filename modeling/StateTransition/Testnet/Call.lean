import StateTransition.Call.Balances
import StateTransition.Call.System
import StateTransition.Timestamp

set_option autoImplicit false

/-! The calls of the test network, and their names. -/

namespace StateTransition.Testnet

/-- An address on the test network, where accounts have no short numbers. -/
abbrev Place := Address AccountId Unit

def placeCodec : Codec Place := Address.codec (.octets 32) .unit

inductive Call where
  | system (call : SystemCall)
  | timestamp (call : TimestampCall)
  | balances (call : BalanceCall Place)
deriving DecidableEq

namespace Call

def codec : Codec Call := .tagged
  [.carrying 0 SystemCall.codec .system (fun | .system call => some call | _ => none),
   .carrying 1 Timestamp.callCodec .timestamp
     (fun | .timestamp call => some call | _ => none),
   .carrying 2 (BalanceCall.codec placeCodec) .balances
     (fun | .balances call => some call | _ => none)]

def info : Call → DispatchInfo
  | .system call => call.info .disk
  | .timestamp _ => Timestamp.callInfo .disk
  | .balances call => call.info .disk

/-- The numbers that stand at the beginning of a call's form, with the names of its part and
of the call. -/
def registry : List ((UInt8 × UInt8) × String × String) :=
  [((0, 0), "System", "remark"),
   ((0, 2), "System", "set_code"),
   ((0, 4), "System", "set_storage"),
   ((0, 5), "System", "kill_storage"),
   ((0, 6), "System", "kill_prefix"),
   ((0, 7), "System", "remark_with_event"),
   ((0, 9), "System", "authorize_upgrade"),
   ((0, 11), "System", "apply_authorized_upgrade"),
   ((1, 0), "Timestamp", "set"),
   ((2, 0), "Balances", "transfer_allow_death"),
   ((2, 2), "Balances", "force_transfer"),
   ((2, 3), "Balances", "transfer_keep_alive"),
   ((2, 8), "Balances", "force_set_balance")]

def nameOf? (numbers : UInt8 × UInt8) : Option (String × String) := registry.lookup numbers

def numbers (call : Call) : UInt8 × UInt8 :=
  let encoded := codec.encode call
  (encoded[0]?.getD 0, encoded[1]?.getD 0)

end Call

end StateTransition.Testnet
