import StateTransition.Limits.Plan
import StateTransition.Report.Dispatch

set_option autoImplicit false

/-! Requests for limits: which classes are meant, and how a plan is made step by step. -/

namespace StateTransition

def DispatchClass.list? (document : Json) : Option (List DispatchClass) :=
  ((request? document).map fun kind : DispatchClass => [kind]).or (request? document)

/-- The limits of a class with some of them replaced. A limit is lifted by null. -/
def ClassLimits.changed? (limits : ClassLimits) (document : Json) : Option ClassLimits := do
  let changed (name : String) (limit : Option Weight) : Option (Option Weight) :=
    (document.field? name).elim (some limit) request?
  return { baseExtrinsic := ← document.askOr? "base_extrinsic" limits.baseExtrinsic
           maxExtrinsic := ← changed "max_extrinsic" limits.maxExtrinsic
           maxTotal := ← changed "max_total" limits.maxTotal
           reserved := ← changed "reserved" limits.reserved }

namespace LimitPlan

def changed? (plan : LimitPlan) : Json → Option LimitPlan
  | .object [("base_block", value)] => return { plan with baseBlock := ← request? value }
  | .object [("avg_block_initialization", value)] =>
      return { plan with beginning := some (.ofParts _ (← request? value)) }
  | .object [("class", .list [kinds, changes])] => do
      return plan.change (← DispatchClass.list? kinds) fun limits =>
        (limits.changed? changes).getD limits
  | _ => none

def ofSteps? (steps : List Json) : Option LimitPlan := steps.foldlM changed? start

end LimitPlan

end StateTransition
