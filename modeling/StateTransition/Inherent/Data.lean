import StateTransition.Codec.Compact
import StateTransition.Store.KeyMap

set_option autoImplicit false

/-! What the author of a block knows about the world, by topic, and the report of those who
check the block against what they know themselves. -/

namespace StateTransition

abbrev InherentId := Octets 8

inductive InherentError where
  | present (id : InherentId)
  | undecodable (id : InherentId)
  | fatalReported
deriving DecidableEq

namespace InherentError

def describeId (id : InherentId) : String :=
  "[" ++ ", ".intercalate (id.bytes.map fun byte => toString byte.toNat) ++ "]"

def message : InherentError → String
  | .present id => "Inherent data already exists for identifier: " ++ describeId id
  | .undecodable id => "Failed to decode inherent data for identifier " ++ describeId id
  | .fatalReported =>
      "There was already a fatal error reported and no other errors are allowed"

end InherentError

structure InherentData where
  entries : KeyMap Bytes
  sized : ∀ entry ∈ entries.entries, entry.1.length = 8

namespace InherentData

variable {α : Type}

def empty : InherentData where
  entries := .empty
  sized := by simp [KeyMap.empty]

def find? (data : InherentData) (id : InherentId) : Option Bytes := data.entries.find? id.bytes

def replace (data : InherentData) (id : InherentId) (value : Bytes) : InherentData where
  entries := data.entries.insert id.bytes value
  sized := by
    intro entry member
    rcases KeyMap.mem_insertEntry member with rfl | inOld
    · exact id.length_eq
    · exact data.sized entry inOld

def put (data : InherentData) (id : InherentId) (value : Bytes) :
    Except InherentError InherentData :=
  match data.find? id with
  | some _ => .error (.present id)
  | none => .ok (data.replace id value)

def get (data : InherentData) (codec : Codec α) (id : InherentId) :
    Except InherentError (Option α) :=
  match data.find? id with
  | none => .ok none
  | some bytes =>
      match codec.decodeFront? bytes with
      | some value => .ok (some value)
      | none => .error (.undecodable id)

def size (data : InherentData) : Nat := data.entries.entries.length

def toList (data : InherentData) : List (InherentId × Bytes) :=
  data.entries.entries.map fun entry => (.fit 8 entry.1, entry.2)

/-- Of two values of one topic the later counts. -/
def ofList (entries : List (InherentId × Bytes)) : InherentData :=
  entries.foldl (fun data entry => data.replace entry.1 entry.2) empty

def codec : Codec InherentData :=
  (Codec.list ((Codec.octets 8).pair .bytes)).via ofList toList

end InherentData

/-- What is wrong with an inherent, in encoded form. A fatal fault can never be mended,
another one may be gone when the check is made again. -/
structure InherentFault where
  encoded : Bytes
  fatal : Bool

/-- The report of a check: no fault, or one per topic, or a fatal one and no other. -/
structure InherentReport where
  okay : Bool
  fatal : Bool
  faults : InherentData

namespace InherentReport

def clean : InherentReport where
  okay := true
  fatal := false
  faults := .empty

/-- Reports a fault. A fatal one takes the place of all others, and nothing can be reported
after it; a topic can have only one fault. -/
def put (report : InherentReport) (id : InherentId) (fault : InherentFault) :
    Except InherentError InherentReport :=
  if report.fatal then .error .fatalReported
  else
    match (if fault.fatal then .empty else report.faults).put id fault.encoded with
    | .ok faults => .ok { okay := false, fatal := fault.fatal, faults }
    | .error cause => .error cause

def record (report : InherentReport) (id : InherentId) (fault : InherentFault) :
    InherentReport :=
  match report.put id fault with
  | .ok changed => changed
  | .error _ => report

def codec : Codec InherentReport :=
  (Codec.bool.pair (Codec.bool.pair InherentData.codec)).via
    (fun parts => ⟨parts.1, parts.2.1, parts.2.2⟩)
    (fun report => (report.okay, report.fatal, report.faults))

end InherentReport

end StateTransition
