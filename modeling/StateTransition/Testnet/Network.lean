import StateTransition.Chain.Block
import StateTransition.Limits.Plan
import StateTransition.Signature.Ed25519
import StateTransition.Testnet.Call

set_option autoImplicit false

/-! The test network: a chain with a clock, with balances and with fees. -/

namespace StateTransition.Testnet

abbrev Number := UInt32

def version : Version where
  specName := "stf-test"
  implementationName := "parity-stf-test"
  authoring := 1
  spec := 2
  implementation := 2
  transaction := 1

/-- Two seconds of work for a block, and proofs of any size. -/
def maxBlockWeight : Weight := ⟨2000000000000, Word.top⟩

/-- Blocks should be filled by a quarter. The multiplier moves slowly and never falls below
a tenth. -/
def multiplierRule : MultiplierRule :=
  .targeted (.ofPercent _ 25) (.ofRatio 75 1000000) (.ofRatio 1 10) .top

def rules : Rules AccountId Number where
  account := .octets 32
  describeAccount := AccountId.describe
  parts := { system := 0, balances := 2, payment := 3 }
  version := version
  hashCount := 2400
  weights := (LimitPlan.sensible maxBlockWeight defaultNormalShare).limits
  lengths := .standard
  storeWeight := .disk
  existentialDeposit := 500
  weightFee := .identity
  lengthFee := .multiple 1
  operationalMultiplier := 5
  multiplierRule := multiplierRule
  accountCreated _ := return ()
  accountKilled _ := return ()
  feesTaken _ := return ()

def dispatch : Call → Origin AccountId → Action DispatchOutcome
  | .system call => rules.dispatchSystem call
  | .timestamp call => Timestamp.dispatch call
  | .balances call => rules.dispatchBalances call

def validateUnsigned : Call → Store → Validity
  | .system call => rules.validateSystemUnsigned call
  | _ => fun _ => .error (.unknown .noUnsignedValidator)

/-- A call that nothing is known of is left to its own check of the origin. -/
def admitUnsigned : Call → Store → Except Rejection Unit
  | .system call => rules.admitSystemUnsigned call
  | _ => fun _ => .ok ()

def timestampSource : InherentSource Call where
  id := Timestamp.topic
  create data := return (← Timestamp.create data).map .timestamp
  isInherent
    | .timestamp _ => true
    | _ => false
  check
    | .timestamp call => Timestamp.check call
    | _ => fun _ => return none
  requirement := Timestamp.requirement

def chain : Chain AccountId Number Call where
  rules := rules
  callCodec := Call.codec
  info := Call.info
  dispatch := dispatch
  validateUnsigned _ := validateUnsigned
  admitUnsigned := admitUnsigned
  upgradeHooks := []
  beginHooks := [fun _ => Timestamp.begin .disk]
  idleHooks := []
  finishHooks := [fun _ => Timestamp.finish, fun _ => rules.updateMultiplier]
  inherents := [timestampSource]

abbrev Extrinsic := StateTransition.Extrinsic Place Ed25519.Signature Number Call

/-- A public key is the identifier of its account. -/
def form : ExtrinsicForm AccountId Number Call Extrinsic :=
  .verified chain .unit (.octets 64) Ed25519.verify

def headerCodec : Codec (Header Number) := Header.codec

def blockCodec : Codec (Block Number Extrinsic) := Block.codec form.codec

end StateTransition.Testnet
