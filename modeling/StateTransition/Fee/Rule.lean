import StateTransition.Arithmetic.Fixed
import StateTransition.Arithmetic.Share

set_option autoImplicit false

/-! How the multiplier of weight fees goes on from block to block. -/

namespace StateTransition

inductive MultiplierRule where
  | kept
  | constant (value : Fixed)
  /-- The multiplier moves, within bounds, until blocks have the target weight. -/
  | targeted (target : Perquintill) (variability least most : Fixed)

namespace MultiplierRule

def least : MultiplierRule → Fixed
  | .kept => .zero
  | .constant value => value
  | .targeted _ _ least _ => least

def most : MultiplierRule → Fixed
  | .kept => .top
  | .constant value => value
  | .targeted _ _ _ most => most

def variability : MultiplierRule → Fixed
  | .targeted _ variability _ _ => variability
  | _ => .zero

def target : MultiplierRule → Perquintill
  | .targeted target _ _ _ => target
  | _ => .ofParts _ 0

end MultiplierRule

end StateTransition
