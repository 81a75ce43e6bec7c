import StateTransition.Account.Info
import StateTransition.Dispatch.Info

set_option autoImplicit false

/-! What happens in a block that is of interest outside of it. -/

namespace StateTransition

inductive Phase where
  | extrinsic (index : UInt32)
  | finalization
  | beginning
deriving DecidableEq

def Phase.codec : Codec Phase := .tagged
  [.carrying 0 Codec.word .extrinsic (fun | .extrinsic index => some index | _ => none),
   .plain 1 .finalization,
   .plain 2 .beginning]

inductive SystemEvent (Account : Type) where
  | extrinsicSuccess (info : DispatchInfo)
  | extrinsicFailed (error : DispatchError) (info : DispatchInfo)
  | codeUpdated
  | newAccount (account : Account)
  | killedAccount (account : Account)
  | remarked (sender : Account) (hash : Hash)
  | upgradeAuthorized (code : Hash)
deriving DecidableEq

inductive BalanceEvent (Account : Type) where
  | endowed (account : Account) (free : Balance)
  | dustLost (account : Account) (amount : Balance)
  | transfer (sender receiver : Account) (amount : Balance)
  | balanceSet (account : Account) (free : Balance)
  | deposit (account : Account) (amount : Balance)
  | withdraw (account : Account) (amount : Balance)
deriving DecidableEq

inductive Event (Account : Type) where
  | system (event : SystemEvent Account)
  | balances (event : BalanceEvent Account)
  | feePaid (who : Account) (actual tip : Balance)
deriving DecidableEq

structure EventRecord (Account : Type) where
  phase : Phase
  event : Event Account
  topics : List Hash
deriving DecidableEq

variable {Account : Type} [DecidableEq Account]

def SystemEvent.codec (account : Codec Account) : Codec (SystemEvent Account) := .tagged
  [.carrying 0 DispatchInfo.codec .extrinsicSuccess
     (fun | .extrinsicSuccess info => some info | _ => none),
   .carrying 1 (DispatchError.codec.pair DispatchInfo.codec)
     (fun parts => .extrinsicFailed parts.1 parts.2)
     (fun | .extrinsicFailed error info => some (error, info) | _ => none),
   .plain 2 .codeUpdated,
   .carrying 3 account .newAccount (fun | .newAccount who => some who | _ => none),
   .carrying 4 account .killedAccount (fun | .killedAccount who => some who | _ => none),
   .carrying 5 (account.pair (.octets 32)) (fun parts => .remarked parts.1 parts.2)
     (fun | .remarked sender hash => some (sender, hash) | _ => none),
   .carrying 6 (.octets 32) .upgradeAuthorized
     (fun | .upgradeAuthorized code => some code | _ => none)]

def BalanceEvent.codec (account : Codec Account) : Codec (BalanceEvent Account) :=
  let amount : Codec (Account × Balance) := account.pair .word
  .tagged
    [.carrying 0 amount (fun parts => .endowed parts.1 parts.2)
       (fun | .endowed who free => some (who, free) | _ => none),
     .carrying 1 amount (fun parts => .dustLost parts.1 parts.2)
       (fun | .dustLost who lost => some (who, lost) | _ => none),
     .carrying 2 (account.pair amount)
       (fun parts => .transfer parts.1 parts.2.1 parts.2.2)
       (fun | .transfer sender receiver sent => some (sender, receiver, sent) | _ => none),
     .carrying 3 amount (fun parts => .balanceSet parts.1 parts.2)
       (fun | .balanceSet who free => some (who, free) | _ => none),
     .carrying 4 amount (fun parts => .deposit parts.1 parts.2)
       (fun | .deposit who given => some (who, given) | _ => none),
     .carrying 5 amount (fun parts => .withdraw parts.1 parts.2)
       (fun | .withdraw who taken => some (who, taken) | _ => none)]

/-- Which numbers the parts of a chain have among its calls, events and errors. -/
structure PartNumbers where
  system : UInt8
  balances : UInt8
  payment : UInt8

def Event.codec (parts : PartNumbers) (account : Codec Account) : Codec (Event Account) :=
  .tagged
    [.carrying parts.system (SystemEvent.codec account) .system
       (fun | .system event => some event | _ => none),
     .carrying parts.balances (BalanceEvent.codec account) .balances
       (fun | .balances event => some event | _ => none),
     .carrying parts.payment
       (.tagged [.carrying 0 (account.pair (Codec.word.pair .word)) id some])
       (fun paid => .feePaid paid.1 paid.2.1 paid.2.2)
       (fun | .feePaid who actual tip => some (who, actual, tip) | _ => none)]

def EventRecord.codec (parts : PartNumbers) (account : Codec Account) :
    Codec (EventRecord Account) :=
  (Phase.codec.pair ((Event.codec parts account).pair (.list (.octets 32)))).via
    (fun parts => ⟨parts.1, parts.2.1, parts.2.2⟩)
    (fun record => (record.phase, record.event, record.topics))

end StateTransition
