import StateTransition.Account.Balance
import StateTransition.Fee.Amount

set_option autoImplicit false

/-! Paying fees: the declared fee is withdrawn before a call is run, and what was too much is
given back afterwards. -/

namespace StateTransition

/-- What was paid for a transaction before its call was run; a fee of zero is not paid. -/
structure Payment (Account : Type) where
  who : Account
  tip : Balance
  paid : Option Balance
deriving DecidableEq

namespace Rules

variable {Account Number : Type} [DecidableEq Account] [Word Number]
variable (rules : Rules Account Number)

/-- Whether an account can pay a fee and go on existing. -/
def canPay (who : Account) (fee : Balance) (store : Store) : Bool :=
  fee == 0 ||
    match Word.checkedSub? (rules.freeBalance who store) fee with
    | some rest => rules.existentialDeposit ≤ rest
    | none => false

def payFee (who : Account) (fee : Balance) : Attempt Rejection (Option Balance) := do
  if fee = 0 then return none
  let paid ← (rules.withdraw who fee .keepAlive).adapt fun _ => .invalid .payment
  return some paid

/-- Gives back what was paid above the actual fee, if the account can take it, and passes on
the fee and the tip. -/
def correctFee (payment : Payment Account) (actual : Balance) : Action Unit := do
  match payment.paid with
  | none => return ()
  | some paid =>
      let refund : Balance := Word.saturatingSub paid actual
      let refunded ← (rules.createInExisting payment.who refund).run
      let kept : Balance := Word.saturatingSub paid (refunded.toOption.getD 0)
      let tip := min payment.tip kept
      rules.feesTaken (Word.saturatingSub kept tip)
      rules.feesTaken tip

end Rules

end StateTransition
