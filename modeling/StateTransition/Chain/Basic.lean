import StateTransition.Account.Id
import StateTransition.Inherent.Source
import StateTransition.Origin
import StateTransition.Transaction.Extrinsic

set_option autoImplicit false

/-! Chains: rules, calls, hooks and inherents put together. -/

namespace StateTransition

structure Chain (Account Number Call : Type) where
  rules : Rules Account Number
  callCodec : Codec Call
  info : Call → DispatchInfo
  dispatch : Call → Origin Account → Action DispatchOutcome
  /-- The verdict of the chain on a call without a signer. -/
  validateUnsigned : TransactionSource → Call → Store → Validity
  /-- Whether a call without a signer may be dispatched. -/
  admitUnsigned : Call → Store → Except Rejection Unit
  /-- What happens once when new rules come into force; each hook says what it weighs. -/
  upgradeHooks : List (Action Weight)
  beginHooks : List (Number → Action Weight)
  /-- What may be done with the weight that is left at the end of a block. -/
  idleHooks : List (Number → Weight → Action Weight)
  finishHooks : List (Number → Action Unit)
  inherents : List (InherentSource Call)

namespace Chain

variable {Account Number Call : Type} [DecidableEq Account] [Word Number]
variable (chain : Chain Account Number Call)

/-! ### Checked extrinsics -/

def validate (source : TransactionSource) (extrinsic : CheckedExtrinsic Account Number Call)
    (info : DispatchInfo) (length : Nat) : Query Validity :=
  match extrinsic.signer with
  | some (who, terms) => chain.rules.validateSigned terms who info length .neutral Check.all
  | none => Query.look fun store => do
      let valid ← chain.rules.validateBare info length Check.all store
      return valid.combine (← chain.validateUnsigned source extrinsic.call store)

def prepare (extrinsic : CheckedExtrinsic Account Number Call) (info : DispatchInfo)
    (length : Nat) : Attempt Rejection (Option (Payment Account)) :=
  match extrinsic.signer with
  | some (who, terms) => chain.rules.prepareSigned terms who info length Check.all
  | none => do
      chain.rules.prepareBare info length Check.all
      ExceptT.mk (Action.look (chain.admitUnsigned extrinsic.call))
      return none

/-- Runs the call of an extrinsic with all that comes before and after it. -/
def apply (extrinsic : CheckedExtrinsic Account Number Call) (info : DispatchInfo)
    (length : Nat) : Attempt Rejection DispatchOutcome := do
  let payment ← chain.prepare extrinsic info length
  let origin := Origin.ofSigner (extrinsic.signer.map (·.1))
  let outcome ← ExceptT.lift (chain.dispatch extrinsic.call origin)
  chain.rules.settle payment info outcome.post length outcome.toOption.isNone Check.all
  return outcome

end Chain

structure ExtrinsicForm (Account Number Call Form : Type) where
  codec : Codec Form
  /-- Finds out the signer. -/
  check : Form → Query (Except Rejection (CheckedExtrinsic Account Number Call))
  /-- What is declared of an extrinsic when it is run. -/
  info : Form → DispatchInfo
  isSigned : Form → Bool
  call : Form → Call
  ofCall : Call → Form

namespace ExtrinsicForm

variable {Account Number Call : Type} [DecidableEq Account] [Word Number]

/-- Extrinsics whose signatures are verified against the address of the signer. -/
def verified {Index Proof : Type} (chain : Chain Account Number Call) (index : Codec Index)
    (proof : Codec Proof) (verify : Proof → Bytes → Account → Bool) :
    ExtrinsicForm Account Number Call (Extrinsic (Address Account Index) Proof Number Call) where
  codec := Extrinsic.codec (Address.codec chain.rules.account index) proof chain.callCodec
  check extrinsic :=
    match extrinsic.signature with
    | none => return .ok ⟨none, extrinsic.call⟩
    | some signature =>
        match signature.place.resolve? with
        | none => return .error (.unknown .cannotLookup)
        | some who => do
            match ← chain.rules.signedParts signature.terms Check.all with
            | .error cause => return .error cause
            | .ok context =>
                let payload :=
                  signedPayload (chain.callCodec.encode extrinsic.call) signature.terms context
                return if verify signature.proof payload who then
                  .ok ⟨some (who, signature.terms), extrinsic.call⟩
                  else .error (.invalid .badProof)
  info extrinsic := chain.info extrinsic.call
  isSigned extrinsic := extrinsic.signature.isSome
  call extrinsic := extrinsic.call
  ofCall call := ⟨none, call⟩

/-- Extrinsics whose signers are taken at their word. They weigh as much as they are long. -/
def trusted (chain : Chain Account Number Call) :
    ExtrinsicForm Account Number Call (CheckedExtrinsic Account Number Call) where
  codec := CheckedExtrinsic.codec chain.rules.account chain.callCodec
  check extrinsic := return .ok extrinsic
  info extrinsic :=
    let encoded :=
      (CheckedExtrinsic.codec chain.rules.account chain.callCodec).encode extrinsic
    ⟨⟨UInt64.ofNat encoded.length, 0⟩, (chain.info extrinsic.call).kind, .yes⟩
  isSigned extrinsic := extrinsic.signer.isSome
  call extrinsic := extrinsic.call
  ofCall call := ⟨none, call⟩

end ExtrinsicForm

end StateTransition
