import StateTransition.Inherent.Source
import StateTransition.Trial.Call

set_option autoImplicit false

/-! The inherents of trial chains: three sources, each with a number as its topic. A number
that cannot be read counts as missing. -/

namespace StateTransition.Trial

def topic (name : String) : InherentId := .fit 8 (Bytes.ofText name)

def firstTopic : InherentId := topic "inhtst_a"

def secondTopic : InherentId := topic "inhtst_b"

def thirdTopic : InherentId := topic "inhtst_c"

def told? (data : InherentData) (id : InherentId) : Option UInt64 :=
  match data.get Codec.word id with
  | .ok value => value
  | .error _ => none

def fault (code : UInt8) (fatal : Bool) : InherentFault := ⟨[code], fatal⟩

/-- What is wrong with the first value, where another one is told. -/
def checkFirst (value told : UInt64) : Option InherentFault :=
  if Word.saturatingAdd told 10 < value then some (fault 3 true)
  else if value = told then none
  else some (fault 2 false)

/-- The first value never goes back. -/
def firstSource : InherentSource Call where
  id := firstTopic
  create data := do
    let current ← Query.look firstValue.get
    return (told? data firstTopic).map fun told => .first (max told current)
  isInherent
    | .first _ => true
    | _ => false
  check
    | .first value, data => return (told? data firstTopic).bind (checkFirst value)
    | _, _ => return none
  requirement data :=
    return match told? data firstTopic with
      | none => .notRequired
      | some 99 => .faulty (fault 9 false)
      | some told => .required (fault 1 (1000 ≤ told))

/-- Only even second values are inherents. -/
def secondSource : InherentSource Call where
  id := secondTopic
  create data := return (told? data secondTopic).map .second
  isInherent
    | .second value => value % 2 == 0
    | _ => false
  check _ _ := return none
  requirement _ := return .notRequired

def thirdSource : InherentSource Call where
  id := thirdTopic
  create _ := return none
  isInherent _ := false
  check _ _ := return none
  requirement data :=
    return match told? data thirdTopic with
      | none => .notRequired
      | some told => .required (fault 4 (told % 2 == 1))

def sources : List (InherentSource Call) := [firstSource, secondSource, thirdSource]

end StateTransition.Trial
