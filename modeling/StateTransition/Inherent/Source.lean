import StateTransition.Action
import StateTransition.Inherent.Data

set_option autoImplicit false

/-! Inherents: calls that the author of a block derives from what it knows, and that every
importer checks against what it knows itself. -/

namespace StateTransition

inductive Requirement where
  | notRequired
  /-- Reported if the block does not have it. -/
  | required (fault : InherentFault)
  /-- Reported whatever the block has. -/
  | faulty (fault : InherentFault)

structure InherentSource (Call : Type) where
  id : InherentId
  create : InherentData → Query (Option Call)
  isInherent : Call → Bool
  check : Call → InherentData → Query (Option InherentFault)
  requirement : InherentData → Query Requirement

namespace InherentSource

variable {Call : Type}

/-- All inherents that the sources derive, in the order of the sources. -/
def createAll (data : InherentData) : List (InherentSource Call) → Query (List Call)
  | [] => return []
  | source :: others => do
      let created ← source.create data
      let rest ← createAll data others
      return created.toList ++ rest

/-- Whether a call is an inherent of any of the sources. -/
def isAny (sources : List (InherentSource Call)) (call : Call) : Bool :=
  sources.any (·.isInherent call)

/-- Checks a call against the sources whose inherent it is, up to the first fatal fault. Tells
whether there was one. -/
def checkCall (data : InherentData) (call : Call) (report : InherentReport) :
    List (InherentSource Call) → Query (Bool × InherentReport)
  | [] => return (false, report)
  | source :: others => do
      if source.isInherent call then
        match ← source.check call data with
        | none => checkCall data call report others
        | some fault =>
            let recorded := report.record source.id fault
            if fault.fatal then return (true, recorded)
            else checkCall data call recorded others
      else checkCall data call report others

/-- Checks that the required inherents are among the calls, up to the first fatal fault. -/
def checkRequired (data : InherentData) (calls : List Call) (report : InherentReport) :
    List (InherentSource Call) → Query InherentReport
  | [] => return report
  | source :: others => do
      let fault :=
        match ← source.requirement data with
        | .notRequired => none
        | .required fault => if calls.any source.isInherent then none else some fault
        | .faulty fault => some fault
      match fault with
      | none => checkRequired data calls report others
      | some fault =>
          let recorded := report.record source.id fault
          if fault.fatal then return recorded else checkRequired data calls recorded others

end InherentSource

end StateTransition
