import StateTransition.Account.References

set_option autoImplicit false

/-! Balances of accounts. An account has a balance of at least the existential deposit or
none at all; what falls below it is lost as dust. The total issuance follows every balance
that is created or destroyed. -/

namespace StateTransition

def Item.totalIssuance : Slot Balance Balance :=
  .valued (areaOf "Balances" "TotalIssuance") .word 0

inductive BalanceError where
  | insufficient
  | existentialDeposit
  | expendability
  | deadAccount
deriving DecidableEq

namespace BalanceError

def number : BalanceError → UInt8
  | .insufficient => 2
  | .existentialDeposit => 3
  | .expendability => 4
  | .deadAccount => 6

def text : BalanceError → String
  | .insufficient => "InsufficientBalance"
  | .existentialDeposit => "ExistentialDeposit"
  | .expendability => "Expendability"
  | .deadAccount => "DeadAccount"

end BalanceError

/-- Whether an account has to go on existing when something is taken from it. -/
inductive Existence where
  | keepAlive
  | allowDeath
deriving DecidableEq

/-- What is withdrawn from an account for, as five bits: for the fee of a transaction, for a
transfer, as a reserve, for other fees, and as a tip. -/
structure WithdrawReasons where
  bits : UInt8
  bounded : bits < 32

namespace WithdrawReasons

def all : WithdrawReasons := ⟨31, by decide⟩

def ofBits? (bits : UInt8) : Option WithdrawReasons :=
  if bounded : bits < 32 then some ⟨bits, bounded⟩ else none

def others (reasons : WithdrawReasons) : WithdrawReasons where
  bits := 31 - reasons.bits
  bounded := by
    have below := UInt8.lt_iff_toNat_lt.mp reasons.bounded
    have within : reasons.bits ≤ 31 := by
      rw [UInt8.le_iff_toNat_le]
      change reasons.bits.toNat < 32 at below
      change reasons.bits.toNat ≤ 31
      omega
    rw [UInt8.lt_iff_toNat_lt, UInt8.toNat_sub_of_le _ _ within]
    change 31 - reasons.bits.toNat < 32
    omega

end WithdrawReasons

namespace Rules

variable {Account Number : Type} [DecidableEq Account] [Word Number]
variable (rules : Rules Account Number)

def balanceError (error : BalanceError) : DispatchError :=
  .ofModule (.ofNumber rules.parts.balances error.number error.text)

def freeBalance (who : Account) (store : Store) : Balance := (rules.accountInfo who store).free

/-! ### Balances within the records of accounts -/

/-- Replaces a balance, seen as missing when it is zero, unless the change is refused. The
record of an account that nothing provides for is removed. -/
def tryModifyFree {ε ρ : Type} (who : Account)
    (change : Option Balance → Except ε (ρ × Option Balance)) (store : Store) :
    Except ε ρ × Store :=
  let slot := rules.accountSlot who
  let info := slot.get store
  match change (if info.free = 0 then none else some info.free) with
  | .error cause => (.error cause, store)
  | .ok (answer, free) =>
      if info.isProvided then (.ok answer, slot.put { info with free := free.getD 0 } store)
      else (.ok answer, slot.erase store)

/-- Sets a balance; none is the same as zero. -/
def putFree (who : Account) (free : Option Balance) (store : Store) : Store :=
  (rules.tryModifyFree who (fun _ => (.ok ((), free) : Except Empty (Unit × Option Balance)))
    store).2

/-! ### Changes of a balance -/

def changeIssuance (change : Balance → Balance) : Action Unit :=
  Action.update (Item.totalIssuance.modify fun issuance => ((), change issuance))

/-- Makes a balance that was zero, or not, what it is to be. An account that gains its first
balance is provided for by it, and an account that loses its balance is not any more. -/
def settleFree (who : Account) (isNew : Bool) (free : Balance) : Attempt DispatchError Unit := do
  match isNew, free == 0 with
  | true, true => return ()
  | true, false =>
      let _ ← rules.incrementProviders who
      Action.change (rules.putFree who (some free))
      rules.deposit (.balances (.endowed who free))
  | false, false => Action.change (rules.putFree who (some free))
  | false, true =>
      let info ← Attempt.look (rules.accountInfo who)
      Attempt.demand info.canLoseProvider .consumerRemaining
      Action.change (rules.putFree who none)
      let _ ← ExceptT.mk (rules.decrementProviders who)

/-- What becomes of a balance that is to be `free`: what is kept and what is lost as dust. -/
def withoutDust (free : Balance) : Balance × Option Balance :=
  if free < rules.existentialDeposit ∧ free ≠ 0 then (0, some free) else (free, none)

/-- Replaces a balance, unless the change is refused. The change is told whether the account
had none. Answers what the change does, and the dust. -/
def tryChangeFree {ρ : Type} (who : Account)
    (change : Balance → Bool → Except DispatchError (ρ × Balance)) :
    Attempt DispatchError (ρ × Option Balance) := do
  let before ← Attempt.look (rules.freeBalance who)
  let isNew := before == 0
  let (answer, wanted) ← change before isNew
  let (kept, dust) := rules.withoutDust wanted
  rules.settleFree who isNew kept
  match dust with
  | some amount =>
      Rules.changeIssuance (Word.saturatingSub · amount)
      rules.deposit (.balances (.dustLost who amount))
  | none => pure ()
  return (answer, dust)

def setFree (who : Account) (free : Balance) : Attempt DispatchError Unit := do
  let _ ← rules.tryChangeFree who fun _ _ => .ok ((), free)

/-! ### Moving, creating and destroying -/

def lessened (free amount : Balance) : Except DispatchError Balance :=
  match Word.checkedSub? free amount with
  | some rest => .ok rest
  | none => .error (rules.balanceError .insufficient)

def increased (free amount : Balance) : Except DispatchError Balance :=
  match Word.checkedAdd? free amount with
  | some sum => .ok sum
  | none => .error (.arithmetic .overflow)

/-- Moves an amount between two accounts. All checks come before the first change. -/
def transfer (source target : Account) (amount : Balance) (existence : Existence) :
    Attempt DispatchError Unit := do
  if amount = 0 ∨ source = target then return ()
  let sourceFree ← rules.lessened (← Attempt.look (rules.freeBalance source)) amount
  let targetFree ← Rules.increased (← Attempt.look (rules.freeBalance target)) amount
  Attempt.demand (rules.existentialDeposit ≤ targetFree)
    (rules.balanceError .existentialDeposit)
  let survives : Bool := rules.existentialDeposit ≤ sourceFree
  Attempt.demand (survives || existence == .allowDeath) (rules.balanceError .expendability)
  let info ← Attempt.look (rules.accountInfo source)
  Attempt.demand (survives || info.canLoseProvider) .consumerRemaining
  rules.setFree source sourceFree
  rules.setFree target targetFree
  rules.deposit (.balances (.transfer source target amount))

def noteCreated (who : Account) (amount : Balance) : Action Unit := do
  Rules.changeIssuance (Word.saturatingAdd · amount)
  rules.deposit (.balances (.deposit who amount))

/-- Creates an amount in an account that may come into being with it. Answers what was
created: all or nothing. -/
def create (who : Account) (amount : Balance) : Action Balance := do
  if amount = 0 then return 0
  let created := rules.tryChangeFree who fun free isNew =>
    if isNew ∧ amount < rules.existentialDeposit then
      .error (rules.balanceError .existentialDeposit)
    else do return ((), ← Rules.increased free amount)
  match ← created.run with
  | .error _ => return 0
  | .ok _ =>
      rules.noteCreated who amount
      return amount

def createInExisting (who : Account) (amount : Balance) : Attempt DispatchError Balance := do
  if amount = 0 then return 0
  let _ ← rules.tryChangeFree who fun free isNew =>
    if isNew then Except.error (rules.balanceError .deadAccount)
    else do return ((), ← Rules.increased free amount)
  rules.noteCreated who amount
  return amount

def withdraw (who : Account) (amount : Balance) (existence : Existence) :
    Attempt DispatchError Balance := do
  if amount = 0 then return 0
  let rest ← rules.lessened (← Attempt.look (rules.freeBalance who)) amount
  let _ ← rules.tryChangeFree who fun _ _ =>
    if existence = .keepAlive ∧ rest < rules.existentialDeposit then
      .error (rules.balanceError .expendability)
    else .ok ((), rest)
  Rules.changeIssuance (Word.saturatingSub · amount)
  rules.deposit (.balances (.withdraw who amount))
  return amount

/-- Sets a balance, which is none if it is below the existential deposit; the issuance
follows. -/
def forceBalance (who : Account) (free : Balance) : Attempt DispatchError Unit := do
  let free := if free < rules.existentialDeposit then 0 else free
  let (before, _) ← rules.tryChangeFree who fun before _ => .ok (before, free)
  if before < free then Rules.changeIssuance (Word.saturatingAdd · (free - before))
  else if free < before then Rules.changeIssuance (Word.saturatingSub · (before - free))
  rules.deposit (.balances (.balanceSet who free))

/-! ### The first balances of a chain -/

def allDistinct : List Account → Bool
  | [] => true
  | first :: others => !others.contains first && allDistinct others

def endowmentFault? (endowments : List (Account × Balance)) : Option String :=
  match endowments.find? fun endowment => endowment.2 < rules.existentialDeposit with
  | some (who, free) =>
      some ("the balance of any account should always be at least the existential deposit. " ++
        rules.describeAccount who ++ " is endowed with " ++ Word.decimal free ++ ", below " ++
        Word.decimal rules.existentialDeposit)
  | none =>
      if allDistinct (endowments.map (·.1)) then none
      else some "duplicate balances in genesis."

/-- Writes the first balances of a chain. Nothing is written if something is wrong with
them. -/
def endow (endowments : List (Account × Balance)) : Action (Except String Unit) := do
  match rules.endowmentFault? endowments with
  | some fault => return .error fault
  | none =>
      let total : Balance := endowments.foldl (fun sum endowment =>
        Word.saturatingAdd sum endowment.2) 0
      Action.change (Item.totalIssuance.put total)
      for (who, free) in endowments do
        let _ ← rules.incrementProviders who
        Action.change (rules.putFree who (some free))
      return .ok ()

end Rules

end StateTransition
