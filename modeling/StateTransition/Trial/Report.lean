import StateTransition.Report.Call
import StateTransition.Trial.Draft

set_option autoImplicit false

/-! Reports of what is particular to trial chains, and requests for it. -/

namespace StateTransition.Trial

instance : Report ShownSignature where
  report signature := report (signature.signer, signature.message)

instance : Request ShownSignature where
  request? document :=
    (request? document).map fun parts : Account × Bytes => ⟨parts.1, parts.2⟩

instance : Request Place where
  request? := Address.request? request? request?

/-! ### Calls -/

instance : Report ScriptedCall where
  report call := .object
    [("weight", report call.info.weight), ("class", report call.info.kind),
     ("pays", report call.info.pays), ("actual", report call.post.actual),
     ("post_pays", report call.post.pays), ("error", report call.error),
     ("writes", report call.writes), ("origin", report call.origin),
     ("unsigned", report call.unsigned)]

/-- Whatever is not said is the least that can be said. -/
instance : Request ScriptedCall where
  request? document := do
    return {
      info :=
        { weight := ← document.askOr? "weight" .zero
          kind := ← document.askOr? "class" .normal
          pays := ← document.askOr? "pays" .yes }
      post := { actual := ← document.ask? "actual", pays := ← document.askOr? "post_pays" .yes }
      error := ← document.ask? "error"
      writes := ← document.askOr? "writes" []
      origin := ← document.askOr? "origin" 0
      unsigned := ← document.askOr? "unsigned" false }

instance : Report Call where
  report
    | .system call => report call
    | .balances call => report call
    | .scripted call => .single "Custom" (report call)
    | .first value => .single "A" (report value)
    | .second value => .single "B" (report value)

/-- A call is asked for by name, or by its encoded form. -/
instance : Request Call where
  request?
    | .object [("hex", value)] => do (Call.codec.decodeAll (← request? value)).toOption
    | .object [("Custom", value)] => (request? value).map .scripted
    | .object [("A", value)] => (request? value).map .first
    | .object [("B", value)] => (request? value).map .second
    | .object [(name, value)] =>
        ((SystemCall.request? name value).map .system).or
          ((BalanceCall.request? request? name value).map .balances)
    | _ => none

/-! ### Extrinsics -/

instance : Report TrustedExtrinsic where
  report extrinsic := .object
    [("signer", report (extrinsic.signer.map (·.1))), ("call", report extrinsic.call)]

/-- An extrinsic, and the one whose signer is taken at its word. -/
def Extrinsic.overview (extrinsic : Extrinsic) (settings : Settings) : Json :=
  let form := form settings
  let trustedForm := trustedForm settings
  let trusted := extrinsic.trusted
  .object
    [("debug", .text (extrinsic.describe (Address.describe Word.decimal Word.decimal) "7")),
     ("info", report (form.info extrinsic)), ("signed", report (form.isSigned extrinsic)),
     ("len", report (form.codec.encode extrinsic).length),
     ("inherent", report [settings.chain.isInherent form extrinsic,
       settings.bareChain.isInherent form extrinsic,
       settings.chain.isInherent trustedForm trusted]),
     ("test_debug", .text (trusted.describe Word.decimal)),
     ("test_encoded", report (trustedForm.codec.encode trusted)),
     ("test_info", report (trustedForm.info trusted)),
     ("test_signed", report (trustedForm.isSigned trusted))]

instance : Request (Terms Number) where
  request? document := do
    return { era := ← document.askOr? "era" .immortal
             nonce := ← document.askOr? "nonce" 0
             tip := ← document.askOr? "tip" 0 }

instance : Request SignedContext where
  request? document := do
    return { spec := ← document.ask? "spec"
             transaction := ← document.ask? "tx"
             genesis := ← document.ask? "genesis"
             birth := ← document.ask? "birth" }

instance : Request Signing where
  request? document := do
    if (document.field "sig").isNull then
      return ((← document.ask? "raw" : Option SignedContext).map Signing.inContext).getD .inState
    else return .unrelated

/-- A draft is asked for by an encoded extrinsic or by its parts. -/
instance : Request Draft where
  request?
    | .object [("hex", value)] => do
        ((form .plain).codec.decodeAll (← request? value)).toOption.map .finished
    | .object [("unsigned", call)] => (request? call).map .unsigned
    | document => do
        let place : Place ← document.ask? "who"
        let signer ← document.askOr? "by" (place.resolve?.getD 0)
        return .signed place signer (← request? document) (← document.ask? "signed")
          (← request? document)

def inherentData? (document : Json) : Option InherentData := do
  let told (name : String) : Option (Option Bytes) := do
    return (← document.ask? name : Option UInt64).map Codec.word.encode
  let odd : Option UInt8 ← document.ask? "raw_a"
  let entries :=
    [(firstTopic, (odd.map ([·])).or (← told "a")), (secondTopic, ← told "b"),
     (thirdTopic, ← told "c")]
  return .ofList (entries.filterMap fun entry => entry.2.map (entry.1, ·))

/-! ### Settings -/

instance : Named MultiplierChoice where
  names := [("identity", .kept), ("const", .constant), ("targeted", .targeted)]

namespace Settings

def changedVersion? (version : Version) (document : Json) : Option Version := do
  let version ← document.askOr? "version" version
  return { version with
    spec := ← document.askOr? "spec_version" version.spec
    transaction := ← document.askOr? "transaction_version" version.transaction
    specName := ← document.askOr? "spec_name" version.specName }

/-- The weights of a hook, by its name, with some of them replaced. -/
def changedHook? (weights : HookWeights) (name : String) (document : Json) :
    Option HookWeights := do
  return {
    beginning := ← document.askOr? ("init_" ++ name) weights.beginning
    idle := ← document.askOr? ("idle_" ++ name) weights.idle
    upgrade := ← document.askOr? ("upgrade_" ++ name) weights.upgrade }

def changed? (settings : Settings) (document : Json) : Option Settings := do
  let hooks := document.field "hooks"
  return {
    weights := ← document.askOr? "weights" settings.weights
    lengths := ← document.askOr? "length" settings.lengths
    existentialDeposit := ← document.askOr? "ed" settings.existentialDeposit
    weightFee := ← document.askOr? "weight_fee" settings.weightFee
    byteFee := ← document.askOr? "byte_fee" settings.byteFee
    operationalMultiplier := ← document.askOr? "op_mult" settings.operationalMultiplier
    hashCount := ← document.askOr? "hash_count" settings.hashCount
    storeWeight := ← document.askOr? "db" settings.storeWeight
    version := ← changedVersion? settings.version document
    multiplier := ← document.askOr? "update" settings.multiplier
    target := ← document.askOr? "target" settings.target
    variability := ← document.askOr? "variability" settings.variability
    leastMultiplier := ← document.askOr? "min" settings.leastMultiplier
    mostMultiplier := ← document.askOr? "max" settings.mostMultiplier
    first := ← changedHook? settings.first "a" hooks
    second := ← changedHook? settings.second "b" hooks
    upgrade := ← hooks.askOr? "upgrade_c" settings.upgrade }

end Settings

end StateTransition.Trial
