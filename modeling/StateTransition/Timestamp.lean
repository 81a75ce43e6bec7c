import StateTransition.Chain.Rules
import StateTransition.Call.Layered
import StateTransition.Inherent.Source
import StateTransition.Origin

set_option autoImplicit false

/-! The time of a block. Its author sets it by an inherent, once in every block; it goes on by
a least period, and importers accept it as long as it is not too far ahead of their own
clocks. -/

namespace StateTransition

/-- Milliseconds of a common clock. -/
abbrev Moment := UInt64

inductive TimestampCall where
  | set (now : Moment)
deriving DecidableEq

inductive TimestampFault where
  | tooEarly
  | tooFarInFuture
  | missing
deriving DecidableEq

namespace TimestampFault

def codec : Codec TimestampFault := .enumeration [.tooEarly, .tooFarInFuture, .missing]

/-- A block that is too far in the future can become valid, other faults are final. -/
def isFatal : TimestampFault → Bool
  | .tooFarInFuture => false
  | _ => true

def report (fault : TimestampFault) : InherentFault := ⟨codec.encode fault, fault.isFatal⟩

end TimestampFault

namespace Timestamp

def leastPeriod : Moment := 1000

/-- How far a block may be ahead of an importer's clock. -/
def mostDrift : Moment := 30000

def topic : InherentId := .fit 8 (Bytes.ofText "timstap0")

def now : Slot Moment Moment := .valued (areaOf "Timestamp" "Now") .word 0

def isSet : Slot Bool Bool := .valued (areaOf "Timestamp" "DidUpdate") .bool false

def callCodec : Codec TimestampCall := .tagged
  [.carrying 0 Codec.word .set (fun | .set now => some now)]

/-- The call is free and has to succeed; `unit` is what an access to the store weighs. -/
def callInfo (unit : StoreWeight) : DispatchInfo := ⟨unit.readsAndWrites 2 1, .mandatory, .no⟩

def force (moment : Moment) (store : Store) : Store := isSet.put true (now.put moment store)

/-- Whether a time may follow on that of the last block. There is no last block if its time
is zero. -/
def follows (moment : Moment) (store : Store) : Bool :=
  let previous := now.get store
  previous == 0 || Word.saturatingAdd previous leastPeriod ≤ moment

def run {Account : Type} (origin : Origin Account) :
    TimestampCall → Attempt DispatchError PostInfo
  | .set moment => do
      origin.requireNobody
      if ← Attempt.look isSet.exists? then ExceptT.lift (Action.trap .timestampRepeated)
      if !(← Attempt.look (follows moment)) then ExceptT.lift (Action.trap .timestampTooEarly)
      Action.change (force moment)
      return .unchanged

def dispatch {Account : Type} (call : TimestampCall) (origin : Origin Account) :
    Action DispatchOutcome :=
  Call.layered (run origin call)

/-! ### Hooks -/

def begin (unit : StoreWeight) : Action Weight := return unit.readsAndWrites 1 1

def finish : Action Unit := do
  if !(← Action.update isSet.take) then Action.trap .timestampMissing

/-! ### The inherent -/

def told (data : InherentData) : Query (Option Moment) :=
  match data.get Codec.word topic with
  | .ok moment => return moment
  | .error _ => Query.trap .timestampData

def create (data : InherentData) : Query (Option TimestampCall) := do
  match ← told data with
  | none => return none
  | some moment =>
      let least ← Query.look fun store => Word.saturatingAdd (now.get store) leastPeriod
      return some (.set (max moment least))

def check : TimestampCall → InherentData → Query (Option InherentFault)
  | .set moment, data => do
      match ← told data with
      | none => return none
      | some clock =>
          let least ← Query.look fun store => Word.saturatingAdd (now.get store) leastPeriod
          if Word.saturatingAdd clock mostDrift < moment then
            return some TimestampFault.tooFarInFuture.report
          else if moment < least then return some TimestampFault.tooEarly.report
          else return none

def requirement (data : InherentData) : Query Requirement := do
  match ← told data with
  | none => return .notRequired
  | some _ => return .required TimestampFault.missing.report

def knowledge (moment : Moment) : InherentData :=
  InherentData.empty.replace topic (Codec.word.encode moment)

end Timestamp

end StateTransition
