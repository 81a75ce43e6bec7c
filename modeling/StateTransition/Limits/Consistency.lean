import StateTransition.Limits.Basic
import StateTransition.Trap

set_option autoImplicit false

/-! When the limits on the weight of a block are consistent, and what is wrong with them
otherwise. -/

namespace StateTransition

/-- One way in which the limits of a class contradict each other. -/
inductive LimitFault where
  /-- The total leaves no room beside the weight of the block and of one extrinsic. -/
  | totalTooSmall (kind : DispatchClass) (total baseBlock baseExtrinsic : Weight)
  | extrinsicAboveTotal (kind : DispatchClass) (maxExtrinsic : Option Weight) (room : Weight)
  | extrinsicZero (kind : DispatchClass) (maxExtrinsic : Option Weight)
  | reservedTooSmall (kind : DispatchClass) (reserved baseExtrinsic : Weight)
  | blockBelowTotal (kind : DispatchClass) (maxBlock : Weight) (maxTotal : Option Weight)
  | blockBelowExtrinsic (kind : DispatchClass) (maxBlock base : Weight)
deriving DecidableEq

namespace LimitFault

def describeLimit : Option Weight → String
  | none => "None"
  | some weight => "Some(" ++ weight.describe ++ ")"

def heading (kind : DispatchClass) : String := "[" ++ kind.describe ++ "] "

def message : LimitFault → String
  | .totalTooSmall kind total baseBlock baseExtrinsic =>
      heading kind ++ total.describe ++ " (total) has to be greater than " ++
        baseBlock.describe ++ " (base block) & " ++ baseExtrinsic.describe ++
        " (base extrinsic)"
  | .extrinsicAboveTotal kind maxExtrinsic room =>
      heading kind ++ describeLimit maxExtrinsic ++
        " (max_extrinsic) can't be greater than " ++ room.describe ++ " (max for class)"
  | .extrinsicZero kind maxExtrinsic =>
      heading kind ++ describeLimit maxExtrinsic ++
        " (max_extrinsic) must not be 0. Check base cost and average initialization cost."
  | .reservedTooSmall kind reserved baseExtrinsic =>
      heading kind ++ reserved.describe ++ " (reserved) has to be greater than " ++
        baseExtrinsic.describe ++ " (base extrinsic) if set"
  | .blockBelowTotal kind maxBlock maxTotal =>
      heading kind ++ maxBlock.describe ++ " (max block) has to be greater than " ++
        describeLimit maxTotal ++ " (max for class)"
  | .blockBelowExtrinsic kind maxBlock base =>
      heading kind ++ maxBlock.describe ++ " (max block) must fit at least one extrinsic " ++
        base.describe ++ " (base weight)"

end LimitFault

namespace BlockWeights

def demand (condition : Bool) (fault : LimitFault) : List LimitFault :=
  if condition then [] else [fault]

/-- What a block weighs with no more than an extrinsic of a class, if that is a weight. -/
def leastBlock? (weights : BlockWeights) (kind : DispatchClass) : Option Weight :=
  (weights.get kind).baseExtrinsic.checkedAdd? weights.baseBlock

/-- What is wrong with the limits of a class, in a fixed order. -/
def classFaults (weights : BlockWeights) (kind : DispatchClass) : List LimitFault :=
  let limits := weights.get kind
  let total := limits.maxTotal.getD .top
  let base := limits.baseExtrinsic
  let reserved := limits.reserved.getD .top
  let room := total.saturatingSub base
  let least := base.saturatingAdd weights.baseBlock
  demand (total.allGreater weights.baseBlock && total.allGreater base || total == .zero)
      (.totalTooSmall kind total weights.baseBlock base) ++
    demand (room.allAtLeast (limits.maxExtrinsic.getD .zero))
      (.extrinsicAboveTotal kind limits.maxExtrinsic room) ++
    demand ((limits.maxExtrinsic.getD .top).allGreater .zero)
      (.extrinsicZero kind limits.maxExtrinsic) ++
    demand (reserved.allGreater base || reserved == .zero) (.reservedTooSmall kind reserved base) ++
    demand (weights.maxBlock.allAtLeast (limits.maxTotal.getD .zero))
      (.blockBelowTotal kind weights.maxBlock limits.maxTotal) ++
    demand (weights.maxBlock.allGreater least)
      (.blockBelowExtrinsic kind weights.maxBlock least)

def faults (weights : BlockWeights) : List LimitFault :=
  DispatchClass.all.flatMap weights.classFaults

/-- The limits if nothing is wrong with them, or what is wrong. Nothing can be said of them if
the least block of a class is no weight. -/
def validate (weights : BlockWeights) : Except Trap (Except (List LimitFault) BlockWeights) :=
  if DispatchClass.all.all fun kind => (weights.leastBlock? kind).isSome then
    match weights.faults with
    | [] => .ok (.ok weights)
    | faults => .ok (.error faults)
  else .error .additionOverflow

end BlockWeights

end StateTransition
