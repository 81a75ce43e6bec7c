import StateTransition.Account.Balance
import StateTransition.Dispatch.Validity
import StateTransition.Limits.Basic
import StateTransition.Origin
import StateTransition.Report.Basic

set_option autoImplicit false

/-! Reports of weights, of the outcomes of calls, and of the validity of transactions. -/

namespace StateTransition

variable {α : Type}

instance : Report Weight where
  report weight := report (weight.refTime, weight.proofSize)

instance : Request Weight where
  request? document :=
    (request? document).map fun parts : UInt64 × UInt64 => ⟨parts.1, parts.2⟩

instance : Report StoreWeight where
  report unit := .object [("read", report unit.read), ("write", report unit.write)]

instance : Request StoreWeight where
  request? document :=
    (request? document).map fun parts : UInt64 × UInt64 => ⟨parts.1, parts.2⟩

/-! ### Classes and limits -/

instance : Named DispatchClass where
  names := [("Normal", .normal), ("Operational", .operational), ("Mandatory", .mandatory)]

def PerClass.fields [Report α] (values : PerClass α) : List (String × Json) :=
  [("normal", report values.normal), ("operational", report values.operational),
   ("mandatory", report values.mandatory)]

instance [Report α] : Report (PerClass α) where
  report values := .object values.fields

instance [Request α] : Request (PerClass α) where
  request? document := do
    return { normal := ← document.ask? "normal"
             operational := ← document.ask? "operational"
             mandatory := ← document.ask? "mandatory" }

instance : Report ClassLimits where
  report limits := .object
    [("base_extrinsic", report limits.baseExtrinsic), ("max_extrinsic", report limits.maxExtrinsic),
     ("max_total", report limits.maxTotal), ("reserved", report limits.reserved)]

instance : Request ClassLimits where
  request? document := do
    return { baseExtrinsic := ← document.askOr? "base_extrinsic" .zero
             maxExtrinsic := ← document.ask? "max_extrinsic"
             maxTotal := ← document.ask? "max_total"
             reserved := ← document.ask? "reserved" }

instance : Report BlockWeights where
  report weights := .object (("base_block", report weights.baseBlock) ::
    ("max_block", report weights.maxBlock) :: weights.classes.fields)

instance : Request BlockWeights where
  request? document := do
    return { baseBlock := ← document.ask? "base_block"
             maxBlock := ← document.ask? "max_block"
             classes := ← request? document }

instance : Report BlockLength where
  report lengths := report lengths.max

instance : Request BlockLength where
  request? document := (request? document).map BlockLength.mk

/-! ### Calls -/

instance : Named Pays where
  names := [("Yes", .yes), ("No", .no)]

instance : Report DispatchInfo where
  report info := .object
    [("weight", report info.weight), ("class", report info.kind), ("pays", report info.pays)]

instance : Request DispatchInfo where
  request? document := do
    return ⟨← document.ask? "weight", ← document.ask? "class", ← document.ask? "pays"⟩

instance : Report PostInfo where
  report post := .object [("actual", report post.actual), ("pays", report post.pays)]

instance : Request PostInfo where
  request? document := do return ⟨← document.ask? "actual", ← document.askOr? "pays" .yes⟩

def PostInfo.ofParts? : Json → Option PostInfo
  | .text "unit" => some .unchanged
  | .object [("weight", value)] => (request? value).map fun actual => ⟨actual, .yes⟩
  | .object [("both", value)] =>
      (request? value).map fun parts : Option Weight × Pays => ⟨parts.1, parts.2⟩
  | .object [("pays", value)] => (request? value).map fun pays => ⟨none, pays⟩
  | _ => none

instance : Named TokenError where
  names :=
    [("FundsUnavailable", .fundsUnavailable), ("OnlyProvider", .onlyProvider),
     ("BelowMinimum", .belowMinimum), ("CannotCreate", .cannotCreate),
     ("UnknownAsset", .unknownAsset), ("Frozen", .frozen), ("Unsupported", .unsupported),
     ("NotExpendable", .notExpendable), ("Blocked", .blocked)]

instance : Named ArithmeticError where
  names :=
    [("Underflow", .underflow), ("Overflow", .overflow), ("DivisionByZero", .divisionByZero)]

instance : Named LayerError where
  names := [("LimitReached", .limitReached), ("NoLayer", .noLayer)]

instance : Report ModuleError where
  report error := .object
    [("index", report error.index), ("error", report error.code), ("message", report error.text)]

instance : Request ModuleError where
  request? document := do
    return ⟨← document.ask? "index", ← document.ask? "error", ← document.ask? "message"⟩

def DispatchError.plainNames : List (String × DispatchError) :=
  [("CannotLookup", .cannotLookup), ("BadOrigin", .badOrigin),
   ("ConsumerRemaining", .consumerRemaining), ("NoProviders", .noProviders),
   ("TooManyConsumers", .tooManyConsumers), ("Exhausted", .exhausted),
   ("Corruption", .corruption), ("Unavailable", .unavailable),
   ("RootNotAllowed", .rootNotAllowed)]

instance : Report DispatchError where
  report
    | .other text => .single "Other" (report text)
    | .ofModule error => .single "Module" (report error)
    | .token error => .single "Token" (report error)
    | .arithmetic error => .single "Arithmetic" (report error)
    | .layer error => .single "Transactional" (report error)
    | error => report ((DispatchError.plainNames.find? (·.2 = error)).map (·.1))

instance : Request DispatchError where
  request?
    | .text name => DispatchError.plainNames.lookup name
    | .object [("Other", value)] => (request? value).map .other
    | .object [("Module", value)] => (request? value).map .ofModule
    | .object [("Token", value)] => (request? value).map .token
    | .object [("Arithmetic", value)] => (request? value).map .arithmetic
    | .object [("Transactional", value)] => (request? value).map .layer
    | _ => none

instance : Report DispatchFailure where
  report failure := .object [("post", report failure.post), ("error", report failure.error)]

instance : Request DispatchFailure where
  request? document :=
    (request? document).map fun parts : PostInfo × DispatchError => ⟨parts.1, parts.2⟩

/-! ### Origins -/

instance {Account : Type} [Report Account] : Report (Origin Account) where
  report
    | .root => .text "Root"
    | .nobody => .text "None"
    | .signed who => .single "Signed" (report who)

instance {Account : Type} [Request Account] : Request (Origin Account) where
  request?
    | .text "Root" => some .root
    | .text "None" => some .nobody
    | document => (document.ask? "Signed").map .signed

instance : Named Existence where
  names := [("KeepAlive", .keepAlive), ("AllowDeath", .allowDeath)]

/-! ### Validity -/

instance : Named TransactionSource where
  names := [("InBlock", .inBlock), ("Local", .local), ("External", .external)]

def InvalidTransaction.plainNames : List (String × InvalidTransaction) :=
  [("Call", .call), ("Payment", .payment), ("Future", .future), ("Stale", .stale),
   ("BadProof", .badProof), ("AncientBirthBlock", .ancientBirthBlock),
   ("ExhaustsResources", .exhaustsResources), ("BadMandatory", .badMandatory),
   ("MandatoryValidation", .mandatoryValidation), ("BadSigner", .badSigner)]

instance : Report InvalidTransaction where
  report
    | .custom code => .single "Custom" (report code)
    | cause => report ((InvalidTransaction.plainNames.find? (·.2 = cause)).map (·.1))

instance : Request InvalidTransaction where
  request?
    | .text name => InvalidTransaction.plainNames.lookup name
    | document => (document.ask? "Custom").map .custom

instance : Report UnknownTransaction where
  report
    | .cannotLookup => .text "CannotLookup"
    | .noUnsignedValidator => .text "NoUnsignedValidator"
    | .custom code => .single "Custom" (report code)

instance : Request UnknownTransaction where
  request?
    | .text "CannotLookup" => some .cannotLookup
    | .text "NoUnsignedValidator" => some .noUnsignedValidator
    | document => (document.ask? "Custom").map .custom

instance : Report Rejection where
  report
    | .invalid cause => .single "Invalid" (report cause)
    | .unknown cause => .single "Unknown" (report cause)

instance : Request Rejection where
  request? document :=
    match document.field? "Invalid" with
    | some cause => (request? cause).map .invalid
    | none => (document.ask? "Unknown").map .unknown

instance : Report ValidTransaction where
  report valid := .object
    [("priority", report valid.priority), ("requires", report valid.requires),
     ("provides", report valid.provides), ("longevity", report valid.longevity),
     ("propagate", report valid.propagate)]

instance : Request ValidTransaction where
  request? document := do
    return { priority := ← document.ask? "priority"
             requires := ← document.ask? "requires"
             provides := ← document.ask? "provides"
             longevity := ← document.ask? "longevity"
             propagate := ← document.ask? "propagate" }

namespace ValidTransaction

/-- A verdict with one part replaced, or with one more tag in a space of names. -/
def changed? (space : Option String) (valid : ValidTransaction) :
    Json → Option ValidTransaction
  | .object [("priority", value)] => return { valid with priority := ← request? value }
  | .object [("longevity", value)] => return { valid with longevity := ← request? value }
  | .object [("propagate", value)] => return { valid with propagate := ← request? value }
  | .object [("requires", value)] => do
      let encoded ← requestEncoded? value
      return { valid with requires := valid.requires ++ [tag space encoded] }
  | .object [("provides", value)] => do
      let encoded ← requestEncoded? value
      return { valid with provides := valid.provides ++ [tag space encoded] }
  | _ => none

def ofSteps? (space : Option String) (steps : List Json) : Option ValidTransaction :=
  steps.foldlM (changed? space) neutral

end ValidTransaction

end StateTransition
