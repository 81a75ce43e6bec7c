import StateTransition.Limits.Consistency

set_option autoImplicit false

/-! Plans for the limits of a chain: limits by class, from which the limit of the block and,
if it is known how much a block weighs before its extrinsics, that of a single extrinsic
follow. -/

namespace StateTransition

def blockExecutionWeight : Weight := ⟨437092000, 0⟩

def extrinsicBaseWeight : Weight := ⟨107074000, 0⟩

structure LimitPlan where
  baseBlock : Weight
  classes : PerClass ClassLimits
  /-- The share of the block that is used before its extrinsics. -/
  beginning : Option Perbill

namespace LimitPlan

def start : LimitPlan where
  baseBlock := blockExecutionWeight
  classes := .ofFunction fun kind =>
    let limit := if kind = .mandatory then none else some Weight.zero
    { baseExtrinsic := extrinsicBaseWeight, maxExtrinsic := none, maxTotal := limit,
      reserved := limit }
  beginning := none

def change (plan : LimitPlan) (classes : List DispatchClass)
    (adjust : ClassLimits → ClassLimits) : LimitPlan :=
  { plan with
    classes := classes.foldl (fun limits kind => limits.modify kind adjust) plan.classes }

def maxBlock (plan : LimitPlan) : Weight :=
  DispatchClass.all.foldl
    (fun most kind =>
      match (plan.classes.get kind).maxTotal with
      | some total => total.larger most
      | none => most)
    .zero

/-- The limit on an extrinsic that fits behind the beginning of a block, where the plan says
nothing else. -/
def deriveExtrinsic (beginning : Weight) (limits : ClassLimits) : ClassLimits :=
  match limits.maxExtrinsic with
  | some _ => limits
  | none =>
      { limits with
        maxExtrinsic := limits.maxTotal.map fun total =>
          (total.saturatingSub beginning).saturatingSub limits.baseExtrinsic }

def limits (plan : LimitPlan) : BlockWeights where
  baseBlock := plan.baseBlock
  maxBlock := plan.maxBlock
  classes :=
    match plan.beginning with
    | none => plan.classes
    | some share =>
        let beginning := plan.maxBlock.share share
        .ofFunction fun kind => deriveExtrinsic beginning (plan.classes.get kind)

def build (plan : LimitPlan) : Except Trap (Except (List LimitFault) BlockWeights) :=
  plan.limits.validate

/-- The limits that follow from a plan that is said to be consistent. -/
def buildSure (plan : LimitPlan) (claim : String) : Except Trap BlockWeights :=
  match plan.build with
  | .ok (.ok weights) => .ok weights
  | .ok (.error _) => .error (.limits claim)
  | .error trap => .error trap

/-- What is claimed of a plan with values of its own. -/
def checkedClaim : String :=
  "Builder was created with sensible defaults, and the custom values have been checked; qed"

/-- Normal and operational extrinsics may fill the block, and nothing else weighs. -/
def simple (total : Weight) : LimitPlan :=
  (({ start with baseBlock := .zero }.change DispatchClass.all fun limits =>
    { limits with baseExtrinsic := .zero }).change DispatchClass.nonMandatory fun limits =>
    { limits with maxTotal := some total })

/-- Normal extrinsics may fill a share of the block, and operational ones have the rest
reserved for them. A tenth of the block is used before its extrinsics. -/
def sensible (total : Weight) (normal : Perbill) : LimitPlan :=
  let normalTotal := total.share normal
  let classes :=
    ((start.change [.normal] fun limits => { limits with maxTotal := some normalTotal }).change
      [.operational] fun limits =>
        { limits with
          maxTotal := some total
          reserved := some (total.saturatingSub normalTotal) }).classes
  { start with classes, beginning := some (.ofPercent _ 10) }

end LimitPlan

namespace BlockWeights

def simple (total : Weight) : Except Trap BlockWeights :=
  (LimitPlan.simple total).buildSure
    "We only specify max_total and leave base values as defaults; qed"

def sensible (total : Weight) (normal : Perbill) : Except Trap BlockWeights :=
  (LimitPlan.sensible total normal).buildSure "Sensible defaults are tested to be valid; qed"

/-- A second of work for a block, and proofs of any size. -/
def standard : BlockWeights :=
  (LimitPlan.sensible ⟨1000000000000, Word.top⟩ defaultNormalShare).limits

end BlockWeights

end StateTransition
