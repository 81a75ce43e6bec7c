import StateTransition.Codec.Compact

set_option autoImplicit false

/-! Why the dispatch of a call fails. Texts are for readers: they are not encoded, and two
module errors that differ only in their text are the same error. -/

namespace StateTransition

inductive ArithmeticError where
  | underflow
  | overflow
  | divisionByZero
deriving DecidableEq

namespace ArithmeticError

def codec : Codec ArithmeticError := .enumeration [.underflow, .overflow, .divisionByZero]

def message : ArithmeticError → String
  | .underflow => "An underflow would occur"
  | .overflow => "An overflow would occur"
  | .divisionByZero => "Division by zero"

end ArithmeticError

inductive TokenError where
  | fundsUnavailable
  | onlyProvider
  | belowMinimum
  | cannotCreate
  | unknownAsset
  | frozen
  | unsupported
  | notExpendable
  | blocked
deriving DecidableEq

namespace TokenError

def codec : Codec TokenError :=
  .enumeration [.fundsUnavailable, .onlyProvider, .belowMinimum, .cannotCreate, .unknownAsset,
    .frozen, .unsupported, .notExpendable, .blocked]

def message : TokenError → String
  | .fundsUnavailable => "Funds are unavailable"
  | .onlyProvider => "Account that must exist would die"
  | .belowMinimum => "Account cannot exist with the funds that would be given"
  | .cannotCreate => "Account cannot be created"
  | .unknownAsset => "The asset in question is unknown"
  | .frozen => "Funds exist but are frozen"
  | .unsupported => "Operation is not supported by the asset"
  | .notExpendable => "Account that is desired to remain would die"
  | .blocked => "Account cannot receive the assets"

end TokenError

inductive LayerError where
  | limitReached
  | noLayer
deriving DecidableEq

namespace LayerError

def codec : Codec LayerError := .enumeration [.limitReached, .noLayer]

def message : LayerError → String
  | .limitReached => "Too many transactional layers have been spawned"
  | .noLayer => "A transactional layer was expected, but does not exist"

end LayerError

/-- An error of one module of the chain: the module's index and its own error number. -/
structure ModuleError where
  index : UInt8
  code : Octets 4
  text : Option String
deriving DecidableEq

namespace ModuleError

def ofNumber (index number : UInt8) (text : String) : ModuleError where
  index
  code := .fit 4 [number]
  text := some text

def codec : Codec ModuleError :=
  (Codec.byte.pair (.octets 4)).via (fun parts => ⟨parts.1, parts.2, none⟩)
    (fun error => (error.index, error.code))

end ModuleError

inductive DispatchError where
  | other (text : String)
  | cannotLookup
  | badOrigin
  | ofModule (error : ModuleError)
  | consumerRemaining
  | noProviders
  | tooManyConsumers
  | token (error : TokenError)
  | arithmetic (error : ArithmeticError)
  | layer (error : LayerError)
  | exhausted
  | corruption
  | unavailable
  | rootNotAllowed
deriving DecidableEq

namespace DispatchError

def stripped : DispatchError → DispatchError
  | .ofModule error => .ofModule { error with text := none }
  | error => error

/-- Equal up to the text of a module's error. -/
def same (left right : DispatchError) : Bool := left.stripped = right.stripped

def message : DispatchError → String
  | .other text => text
  | .cannotLookup => "Cannot lookup"
  | .badOrigin => "Bad origin"
  | .ofModule error => error.text.getD "Unknown module error"
  | .consumerRemaining => "Consumer remaining"
  | .noProviders => "No providers"
  | .tooManyConsumers => "Too many consumers"
  | .token error => error.message
  | .arithmetic error => error.message
  | .layer error => error.message
  | .exhausted => "Resources exhausted"
  | .corruption => "State corrupt"
  | .unavailable => "Resource unavailable"
  | .rootNotAllowed => "Root not allowed"

def codec : Codec DispatchError := .tagged
  [.carrying 0 .unit (fun _ => .other "") (fun | .other _ => some () | _ => none),
   .plain 1 .cannotLookup,
   .plain 2 .badOrigin,
   .carrying 3 ModuleError.codec .ofModule (fun | .ofModule error => some error | _ => none),
   .plain 4 .consumerRemaining,
   .plain 5 .noProviders,
   .plain 6 .tooManyConsumers,
   .carrying 7 TokenError.codec .token (fun | .token error => some error | _ => none),
   .carrying 8 ArithmeticError.codec .arithmetic
     (fun | .arithmetic error => some error | _ => none),
   .carrying 9 LayerError.codec .layer (fun | .layer error => some error | _ => none),
   .plain 10 .exhausted,
   .plain 11 .corruption,
   .plain 12 .unavailable,
   .plain 13 .rootNotAllowed]

end DispatchError

end StateTransition
