import StateTransition.Dispatch.Error

set_option autoImplicit false

/-! Whether a transaction may enter the pool or a block, and how it relates to others. -/

namespace StateTransition

inductive InvalidTransaction where
  | call
  | payment
  | future
  | stale
  | badProof
  | ancientBirthBlock
  | exhaustsResources
  | custom (code : UInt8)
  | badMandatory
  | mandatoryValidation
  | badSigner
deriving DecidableEq

namespace InvalidTransaction

def message : InvalidTransaction → String
  | .call => "Transaction call is not expected"
  | .payment => "Inability to pay some fees (e.g. account balance too low)"
  | .future => "Transaction will be valid in the future"
  | .stale => "Transaction is outdated"
  | .badProof => "Transaction has a bad signature"
  | .ancientBirthBlock => "Transaction has an ancient birth block"
  | .exhaustsResources => "Transaction would exhaust the block limits"
  | .custom _ => "InvalidTransaction custom error"
  | .badMandatory => "A call was labelled as mandatory, but resulted in an Error."
  | .mandatoryValidation =>
      "Transaction dispatch is mandatory; transactions must not be validated."
  | .badSigner => "Invalid signing address"

def codec : Codec InvalidTransaction := .tagged
  [.plain 0 .call,
   .plain 1 .payment,
   .plain 2 .future,
   .plain 3 .stale,
   .plain 4 .badProof,
   .plain 5 .ancientBirthBlock,
   .plain 6 .exhaustsResources,
   .carrying 7 .byte .custom (fun | .custom code => some code | _ => none),
   .plain 8 .badMandatory,
   .plain 9 .mandatoryValidation,
   .plain 10 .badSigner]

end InvalidTransaction

inductive UnknownTransaction where
  | cannotLookup
  | noUnsignedValidator
  | custom (code : UInt8)
deriving DecidableEq

namespace UnknownTransaction

def message : UnknownTransaction → String
  | .cannotLookup => "Could not lookup information required to validate the transaction"
  | .noUnsignedValidator => "Could not find an unsigned validator for the unsigned transaction"
  | .custom _ => "UnknownTransaction custom error"

def codec : Codec UnknownTransaction := .tagged
  [.plain 0 .cannotLookup,
   .plain 1 .noUnsignedValidator,
   .carrying 2 .byte .custom (fun | .custom code => some code | _ => none)]

end UnknownTransaction

inductive Rejection where
  | invalid (cause : InvalidTransaction)
  | unknown (cause : UnknownTransaction)
deriving DecidableEq

namespace Rejection

def message : Rejection → String
  | .invalid cause => cause.message
  | .unknown cause => cause.message

def exhausted (rejection : Rejection) : Bool := rejection = .invalid .exhaustsResources

def failedMandatory (rejection : Rejection) : Bool := rejection = .invalid .badMandatory

def codec : Codec Rejection := .tagged
  [.carrying 0 InvalidTransaction.codec .invalid
     (fun | .invalid cause => some cause | _ => none),
   .carrying 1 UnknownTransaction.codec .unknown
     (fun | .unknown cause => some cause | _ => none)]

end Rejection

inductive TransactionSource where
  | inBlock
  | local
  | external
deriving DecidableEq

def TransactionSource.codec : Codec TransactionSource :=
  .enumeration [.inBlock, .local, .external]

/-- How a valid transaction relates to others: it waits for the transactions that provide
what it requires, and is forgotten after so many blocks. -/
structure ValidTransaction where
  priority : UInt64
  requires : List Bytes
  provides : List Bytes
  longevity : UInt64
  propagate : Bool
deriving DecidableEq

namespace ValidTransaction

def neutral : ValidTransaction where
  priority := 0
  requires := []
  provides := []
  longevity := Word.top
  propagate := true

/-- Both at once: priorities add up, tags are joined, and the shorter life counts. -/
def combine (left right : ValidTransaction) : ValidTransaction where
  priority := Word.saturatingAdd left.priority right.priority
  requires := left.requires ++ right.requires
  provides := left.provides ++ right.provides
  longevity := if right.longevity < left.longevity then right.longevity else left.longevity
  propagate := left.propagate && right.propagate

/-- A tag in the space of one part of the chain. -/
def tag (space : Option String) (encoded : Bytes) : Bytes :=
  match space with
  | some name => Codec.text.encode name ++ encoded
  | none => encoded

def codec : Codec ValidTransaction :=
  (Codec.word.pair ((Codec.list .bytes).pair ((Codec.list .bytes).pair
    (Codec.word.pair .bool)))).via
    (fun parts => ⟨parts.1, parts.2.1, parts.2.2.1, parts.2.2.2.1, parts.2.2.2.2⟩)
    (fun valid =>
      (valid.priority, valid.requires, valid.provides, valid.longevity, valid.propagate))

end ValidTransaction

abbrev Validity := Except Rejection ValidTransaction

def Validity.codec : Codec Validity := .result Rejection.codec ValidTransaction.codec

/-- Rejected, or included with a call that succeeded or failed. -/
abbrev ApplyOutcome := Except Rejection (Except DispatchError Unit)

def ApplyOutcome.codec : Codec ApplyOutcome :=
  .result Rejection.codec (.result DispatchError.codec .unit)

end StateTransition
