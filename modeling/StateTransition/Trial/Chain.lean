import StateTransition.Chain.Block
import StateTransition.Trial.Inherents
import StateTransition.Trial.Settings

set_option autoImplicit false

/-! Trial chains. Their hooks leave notes and marks, so that it can be told when they ran. -/

namespace StateTransition.Trial

structure ShownSignature where
  signer : Account
  message : Bytes
deriving DecidableEq

namespace ShownSignature

def codec : Codec ShownSignature :=
  (Codec.word.pair .bytes).via (fun parts => ⟨parts.1, parts.2⟩)
    (fun signature => (signature.signer, signature.message))

def verify (signature : ShownSignature) (message : Bytes) (signer : Account) : Bool :=
  signer == signature.signer && message == signature.message

end ShownSignature

def noteOf (text : String) (value : UInt64) : Action Unit :=
  Action.note (text ++ Word.decimal value)

namespace Settings

variable (settings : Settings)

def rules : Rules Account Number where
  account := .word
  describeAccount := Word.decimal
  parts := { system := 0, balances := 1, payment := 2 }
  version := settings.version
  hashCount := settings.hashCount
  weights := settings.weights
  lengths := settings.lengths
  storeWeight := settings.storeWeight
  existentialDeposit := settings.existentialDeposit
  weightFee := .multiple settings.weightFee
  lengthFee := .multiple settings.byteFee
  operationalMultiplier := settings.operationalMultiplier
  multiplierRule := settings.multiplierRule
  accountCreated who := do
    noteOf "new " who
    noteOf "new again " who
  accountKilled := noteOf "killed "
  feesTaken := noteOf "unbalanced "

/-! ### Hooks -/

def markKey (text : String) : Bytes := Bytes.ofText text

def beginHook (name : String) (weight : Weight) (number : Number) : Action Weight := do
  noteOf ("init " ++ name ++ " ") number
  Action.change (·.write Codec.word (markKey ("init_" ++ name)) number)
  return weight

def idleHook (name : String) (weight : Weight) (number : Number) (remaining : Weight) :
    Action Weight := do
  Action.note ("idle " ++ name ++ " " ++ Word.decimal number ++ " " ++
    Word.decimal remaining.refTime ++ " " ++ Word.decimal remaining.proofSize)
  return weight

def restHook (_ : Number) (_ : Weight) : Action Weight := return .zero

def finishHook (name : String) (number : Number) : Action Unit :=
  noteOf ("finalize " ++ name ++ " ") number

def upgradeHook (name : String) (weight : Weight) : Action Weight := do
  Action.note ("upgrade " ++ name)
  Action.change (·.write Codec.word (markKey ("upgrade_" ++ name)) settings.version.spec)
  settings.rules.deposit (.system .codeUpdated)
  return weight

/-! ### Calls -/

def dispatch : Call → Origin Account → Action DispatchOutcome
  | .system call => settings.rules.dispatchSystem call
  | .balances call => settings.rules.dispatchBalances call
  | .scripted call => call.dispatch
  | .first value => fun origin => StateTransition.Call.layered (setFirst value origin)
  | .second value => fun _ => StateTransition.Call.layered (setSecond value)

def validateUnsigned (source : TransactionSource) (call : Call) (store : Store) : Validity :=
  match call with
  | .system call => settings.rules.validateSystemUnsigned call store
  | .scripted call =>
      if call.unsigned then
        .ok { priority := 7, requires := [], longevity := 9, propagate := false
              provides :=
                [ValidTransaction.tag (some "mock") (TransactionSource.codec.encode source)] }
      else .error (.unknown .noUnsignedValidator)
  | .first _ | .second _ => .ok .neutral
  | .balances _ => .error (.unknown .noUnsignedValidator)

def chain : Chain Account Number Call where
  rules := settings.rules
  callCodec := Call.codec
  info := Call.info settings.storeWeight
  dispatch := settings.dispatch
  validateUnsigned := settings.validateUnsigned
  admitUnsigned call store :=
    (settings.validateUnsigned .inBlock call store).map fun _ => ()
  upgradeHooks :=
    [settings.upgradeHook "c" settings.upgrade,
     settings.upgradeHook "a" settings.first.upgrade,
     settings.upgradeHook "b" settings.second.upgrade]
  beginHooks :=
    [beginHook "a" settings.first.beginning, beginHook "b" settings.second.beginning]
  idleHooks :=
    [restHook, idleHook "a" settings.first.idle, restHook, restHook,
     idleHook "b" settings.second.idle]
  finishHooks :=
    [finishHook "a", fun _ => settings.rules.updateMultiplier, finishHook "b"]
  inherents := sources

def bareChain : Chain Account Number Call := { settings.chain with inherents := [] }

end Settings

abbrev Extrinsic := StateTransition.Extrinsic Place ShownSignature Number Call

abbrev TrustedExtrinsic := CheckedExtrinsic Account Number Call

def form (settings : Settings) : ExtrinsicForm Account Number Call Extrinsic :=
  .verified settings.chain .compact ShownSignature.codec ShownSignature.verify

def trustedForm (settings : Settings) : ExtrinsicForm Account Number Call TrustedExtrinsic :=
  .trusted settings.chain

end StateTransition.Trial
