import StateTransition.Fee.Payment
import StateTransition.Limits.Room
import StateTransition.Transaction.Terms

set_option autoImplicit false

/-! The checks that every transaction passes, in a fixed order. A check can look at a
transaction for the pool, can take effect before the call is run, and can settle what is left
to settle afterwards. -/

namespace StateTransition

inductive Check where
  | sender
  | specVersion
  | transactionVersion
  | genesis
  | mortality
  | nonce
  | weight
  | payment
deriving DecidableEq

namespace Check

def all : List Check :=
  [.sender, .specVersion, .transactionVersion, .genesis, .mortality, .nonce, .weight, .payment]

def name : Check → String
  | .sender => "CheckNonZeroSender"
  | .specVersion => "CheckSpecVersion"
  | .transactionVersion => "CheckTxVersion"
  | .genesis => "CheckGenesis"
  | .mortality => "CheckMortality"
  | .nonce => "CheckNonce"
  | .weight => "CheckWeight"
  | .payment => "ChargeTransactionPayment"

def namesTogether : String := "You should call `identifier()`!"

section

variable {Number : Type} [Word Number]

def encode (terms : Terms Number) : Check → Bytes
  | .mortality => Era.codec.encode terms.era
  | .nonce => Codec.compact.encode terms.nonce
  | .payment => Codec.compact.encode terms.tip
  | _ => []

def describe (terms : Terms Number) (check : Check) : String :=
  match check with
  | .mortality => check.name ++ "(" ++ terms.era.describe ++ ")"
  | .nonce => check.name ++ "(" ++ Word.decimal terms.nonce ++ ")"
  | .payment => check.name ++ "<" ++ Word.decimal terms.tip ++ ">"
  | _ => check.name

end

end Check

def Terms.describe {Number : Type} [Word Number] (terms : Terms Number) : String :=
  "(" ++ ", ".intercalate (Check.all.map (Check.describe terms)) ++ ")"

namespace Rules

variable {Account Number : Type} [DecidableEq Account] [Word Number]
variable (rules : Rules Account Number)

/-! ### The signed context -/

/-- The hash of the block at which an era begins. Only remembered blocks have one. -/
def birthHash (_ : Rules Account Number) (era : Era) : Query (Except Rejection Hash) := fun store =>
  match era.birth? (Word.convert (Environment.number store : Number)) with
  | none => .error .divisionByZero
  | some birth =>
      let row := Item.blockHash.row (Word.convert birth : Number)
      .ok (if row.exists? store then .ok (row.get store)
        else .error (.invalid .ancientBirthBlock))

def signedPart (terms : Terms Number) : Check → Query (Except Rejection Bytes)
  | .specVersion => return .ok (Codec.word.encode rules.version.spec)
  | .transactionVersion => return .ok (Codec.word.encode rules.version.transaction)
  | .genesis => Query.look fun store =>
      .ok (Environment.blockHash (Word.zero : Number) store).bytes
  | .mortality => do
      return (← rules.birthHash terms.era).map Octets.bytes
  | _ => return .ok []

def signedParts (terms : Terms Number) : List Check → Query (Except Rejection Bytes)
  | [] => return .ok []
  | check :: others => do
      match ← rules.signedPart terms check with
      | .error cause => return .error cause
      | .ok part => return (← signedParts terms others).map (part ++ ·)

/-! ### For the pool -/

def nonceTag (who : Account) (nonce : Number) : Bytes :=
  (rules.account.pair .word).encode (who, nonce)

/-- A nonce that is not used up is valid; one that is ahead waits for the one before it. -/
def validateNonce (who : Account) (nonce : Number) (store : Store) : Validity :=
  let info := rules.accountInfo who store
  if !info.isProvided then .error (.invalid .payment)
  else if Word.toNat nonce < Word.toNat info.nonce then .error (.invalid .stale)
  else
    let previous := Word.saturatingSub nonce Word.one
    let ahead : Bool := Word.toNat info.nonce < Word.toNat nonce
    .ok { ValidTransaction.neutral with
      requires := if ahead then [rules.nonceTag who previous] else []
      provides := [rules.nonceTag who nonce] }

def validatePayment (who : Account) (tip : Balance) (info : DispatchInfo) (length : Nat)
    (store : Store) : Validity :=
  let fee := rules.fee (UInt32.ofNat length) info tip store
  if rules.canPay who fee store then
    .ok { ValidTransaction.neutral with priority := rules.priority info length tip fee }
  else .error (.invalid .payment)

def validateCheck (terms : Terms Number) (who : Account) (info : DispatchInfo) (length : Nat) :
    Check → Query Validity
  | .sender =>
      return if (rules.account.encode who).all (· == 0) then .error (.invalid .badSigner)
        else .ok .neutral
  | .mortality => fun store =>
      let current : UInt64 := Word.convert (Environment.number store : Number)
      match terms.era.death? current with
      | none => .error .divisionByZero
      | some death =>
          .ok (.ok { ValidTransaction.neutral with
            longevity := Word.saturatingSub death current })
  | .nonce => Query.look (rules.validateNonce who terms.nonce)
  | .weight => Query.look (rules.checkRoom info (UInt32.ofNat length))
  | .payment => Query.look (rules.validatePayment who terms.tip info length)
  | _ => return .ok .neutral

def validateSigned (terms : Terms Number) (who : Account) (info : DispatchInfo) (length : Nat)
    (valid : ValidTransaction) : List Check → Query Validity
  | [] => return .ok valid
  | check :: others => do
      match ← rules.validateCheck terms who info length check with
      | .error cause => return .error cause
      | .ok more => validateSigned terms who info length (valid.combine more) others

/-- The verdict of one check on a transaction without a signer. -/
def validateBareCheck (info : DispatchInfo) (length : Nat) (check : Check) (store : Store) :
    Validity :=
  match check with
  | .weight => rules.checkRoom info (UInt32.ofNat length) store
  | _ => .ok .neutral

/-- The verdict of several checks on a transaction without a signer. -/
def validateBare (info : DispatchInfo) (length : Nat) (checks : List Check) (store : Store) :
    Validity :=
  checks.foldlM (fun valid check => do
    return valid.combine (← rules.validateBareCheck info length check store)) .neutral

/-! ### In a block -/

def checkNonce (who : Account) (nonce : Number) (store : Store) : Except Rejection Unit :=
  let info := rules.accountInfo who store
  if !info.isProvided then .error (.invalid .payment)
  else if Word.toNat nonce < Word.toNat info.nonce then .error (.invalid .stale)
  else if Word.toNat info.nonce < Word.toNat nonce then .error (.invalid .future)
  else .ok ()

/-- Uses up a nonce, which has to be the next of its account. -/
def takeNonce (who : Account) (nonce : Number) : Attempt Rejection Unit := do
  ExceptT.mk (Action.look (rules.checkNonce who nonce))
  rules.incrementNonce who

def takeFee (who : Account) (tip : Balance) (info : DispatchInfo) (length : Nat) :
    Attempt Rejection (Payment Account) := do
  let fee ← Attempt.look (rules.fee (UInt32.ofNat length) info tip)
  let paid ← rules.payFee who fee
  return { who, tip, paid }

/-- What a check does before the call of a signed transaction is run. -/
def prepareCheck (terms : Terms Number) (who : Account) (info : DispatchInfo) (length : Nat) :
    Check → Attempt Rejection (Option (Payment Account))
  | .nonce => do
      rules.takeNonce who terms.nonce
      return none
  | .weight => do
      Attempt.update (rules.takeRoom info (UInt32.ofNat length))
      return none
  | .payment => do return some (← rules.takeFee who terms.tip info length)
  | check => do
      let _ ← Attempt.ask (rules.validateCheck terms who info length check)
      return none

/-- What several checks do before the call of a signed transaction is run. -/
def prepareSigned (terms : Terms Number) (who : Account) (info : DispatchInfo) (length : Nat) :
    List Check → Attempt Rejection (Option (Payment Account))
  | [] => return none
  | check :: others => do
      let first ← rules.prepareCheck terms who info length check
      let later ← prepareSigned terms who info length others
      return first.or later

/-- What a check does before a call without a signer is run. -/
def prepareBareCheck (info : DispatchInfo) (length : Nat) : Check → Attempt Rejection Unit
  | .weight => Attempt.update (rules.takeRoom info (UInt32.ofNat length))
  | _ => return ()

def prepareBare (info : DispatchInfo) (length : Nat) (checks : List Check) :
    Attempt Rejection Unit :=
  checks.forM (rules.prepareBareCheck info length)

def settlePayment (payment : Payment Account) (info : DispatchInfo) (post : PostInfo)
    (length : Nat) : Action Unit := do
  let actual ← Action.look (rules.actualFee (UInt32.ofNat length) info post payment.tip)
  rules.correctFee payment actual
  rules.deposit (.feePaid payment.who actual payment.tip)

/-- What a check does after the call has been run. A mandatory call must not have failed. -/
def settleCheck (payment : Option (Payment Account)) (info : DispatchInfo) (post : PostInfo)
    (length : Nat) (failed : Bool) : Check → Attempt Rejection Unit
  | .weight =>
      if info.kind = .mandatory ∧ failed then throw (.invalid .badMandatory)
      else Action.change (returnRoom info post)
  | .payment =>
      match payment with
      | some payment => rules.settlePayment payment info post length
      | none => return ()
  | _ => return ()

def settle (payment : Option (Payment Account)) (info : DispatchInfo) (post : PostInfo)
    (length : Nat) (failed : Bool) (checks : List Check) : Attempt Rejection Unit :=
  checks.forM (rules.settleCheck payment info post length failed)

end Rules

end StateTransition
