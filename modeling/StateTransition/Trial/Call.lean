import StateTransition.Call.Balances
import StateTransition.Call.System

set_option autoImplicit false

/-! The calls of trial chains: those of every chain, calls that say themselves how they are to
end, and two that set a value of the block. -/

namespace StateTransition.Trial

abbrev Account := UInt64

abbrev Number := UInt64

abbrev Place := Address Account UInt32

def placeCodec : Codec Place := Address.codec .word .compact

/-- What a call that says how it ends asks of its origin. -/
inductive Demand where
  | signed
  | root
  | nobody
  | anyone
deriving DecidableEq

/-- A call that declares what it likes, writes to the store and ends as it says. -/
structure ScriptedCall where
  info : DispatchInfo
  post : PostInfo
  error : Option DispatchError
  writes : List (Bytes × Bytes)
  origin : UInt8
  /-- Whether it is valid without a signer. -/
  unsigned : Bool
deriving DecidableEq

namespace ScriptedCall

def codec : Codec ScriptedCall :=
  (DispatchInfo.codec.pair (PostInfo.codec.pair ((Codec.option DispatchError.codec).pair
    ((Codec.list (.pair .bytes .bytes)).pair (Codec.byte.pair .bool))))).via
    (fun parts => ⟨parts.1, parts.2.1, parts.2.2.1, parts.2.2.2.1, parts.2.2.2.2.1,
      parts.2.2.2.2.2⟩)
    (fun call => (call.info, call.post, call.error, call.writes, call.origin, call.unsigned))

def demand (call : ScriptedCall) : Demand :=
  if call.origin = 1 then .signed
  else if call.origin = 2 then .root
  else if call.origin = 3 then .nobody
  else .anyone

/-- Makes sure that the origin is what the call asks for. -/
def checkOrigin (call : ScriptedCall) (origin : Origin Account) : Except DispatchError Unit :=
  match call.demand with
  | .signed => (origin.requireSigned).map fun _ => ()
  | .root => origin.requireRoot
  | .nobody => origin.requireNobody
  | .anyone => .ok ()

def run (call : ScriptedCall) (origin : Origin Account) : Attempt DispatchFailure PostInfo := do
  ((call.checkOrigin origin).mapError DispatchFailure.ofError : Except DispatchFailure Unit)
  Action.change fun store =>
    call.writes.foldl (fun store item => store.put item.1 item.2) store
  match call.error with
  | some error => throw ⟨call.post, error⟩
  | none => return call.post

def dispatch (call : ScriptedCall) (origin : Origin Account) : Action DispatchOutcome :=
  Layer.keepingSuccess .ofError (call.run origin).run

end ScriptedCall

inductive Call where
  | system (call : SystemCall)
  | balances (call : BalanceCall Place)
  | scripted (call : ScriptedCall)
  | first (value : UInt64)
  | second (value : UInt64)
deriving DecidableEq

namespace Call

def codec : Codec Call := .tagged
  [.carrying 0 SystemCall.codec .system (fun | .system call => some call | _ => none),
   .carrying 1 (BalanceCall.codec placeCodec) .balances
     (fun | .balances call => some call | _ => none),
   .carrying 2 ScriptedCall.codec .scripted (fun | .scripted call => some call | _ => none),
   .carrying 3 Codec.word .first (fun | .first value => some value | _ => none),
   .carrying 4 Codec.word .second (fun | .second value => some value | _ => none)]

/-- What is declared of a call; `unit` is what an access to the store weighs. -/
def info (unit : StoreWeight) : Call → DispatchInfo
  | .system call => call.info unit
  | .balances call => call.info unit
  | .scripted call => call.info
  | .first _ => ⟨⟨100, 10⟩, .mandatory, .no⟩
  | .second _ => ⟨⟨50, 5⟩, .normal, .no⟩

end Call

/-- The value that the first kind of inherent sets; zero before it was set. -/
def firstValue : Slot UInt64 UInt64 := .valued (Bytes.ofText "inherent_a") .word 0

def secondValue : Slot UInt64 UInt64 := .valued (Bytes.ofText "inherent_b") .word 0

def setFirst (value : UInt64) (origin : Origin Account) : Attempt DispatchError PostInfo := do
  origin.requireNobody
  Action.change (firstValue.put value)
  Attempt.demand (value != 13) (.other "unlucky")
  return .unchanged

def setSecond (value : UInt64) : Attempt DispatchError PostInfo := do
  Action.change (secondValue.put value)
  return .unchanged

end StateTransition.Trial
