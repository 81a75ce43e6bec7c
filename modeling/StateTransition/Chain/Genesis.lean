import StateTransition.Account.Balance
import StateTransition.Block.Environment
import StateTransition.Fee.Multiplier

set_option autoImplicit false

/-! What a chain begins with. -/

namespace StateTransition

structure Endowments (Account : Type) where
  balances : List (Account × Balance)
  multiplier : Fixed

namespace Rules

variable {Account Number : Type} [DecidableEq Account] [Word Number]
variable (rules : Rules Account Number)

/-- Writes what a chain begins with, as far as nothing is wrong with the balances. -/
def begin (endowments : Endowments Account) : Action (Except String Unit) := do
  Action.change rules.writeGenesis
  match ← rules.endow endowments.balances with
  | .error fault => return .error fault
  | .ok () =>
      Action.change (Item.nextMultiplier.put endowments.multiplier)
      return .ok ()

end Rules

end StateTransition
