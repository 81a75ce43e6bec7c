import StateTransition.Account.Id
import StateTransition.Account.References
import StateTransition.Block.Header
import StateTransition.Event.Basic
import StateTransition.Fee.Details
import StateTransition.Inherent.Data
import StateTransition.Report.Dispatch
import StateTransition.Timestamp
import StateTransition.Transaction.Extrinsic

set_option autoImplicit false

/-! Reports of blocks, accounts, events, inherents and fees. -/

namespace StateTransition

variable {Account Number : Type}

instance : Report Era where
  report
    | .immortal => .text "Immortal"
    | .mortal period phase => .single "Mortal" (report (period, phase))

/-- An era is asked for by its parts, or as the one around a block. -/
instance : Request Era where
  request?
    | .text "Immortal" => some .immortal
    | document =>
        match document.field? "new" with
        | some value =>
            (request? value).map fun parts : UInt64 × UInt64 => .around parts.1 parts.2
        | none =>
            (document.ask? "Mortal").map fun parts : UInt64 × UInt64 => .mortal parts.1 parts.2

/-! ### Blocks -/

instance : Report DigestItem where
  report
    | .other data => .single "Other" (report data)
    | .consensus engine data => .single "Consensus" (report (engine, data))
    | .seal engine data => .single "Seal" (report (engine, data))
    | .preRuntime engine data => .single "PreRuntime" (report (engine, data))
    | .environmentUpdated => .text "RuntimeEnvironmentUpdated"

instance : Request DigestItem where
  request?
    | .text "RuntimeEnvironmentUpdated" => some .environmentUpdated
    | .object [("Other", data)] => (request? data).map .other
    | .object [("Consensus", value)] =>
        (request? value).map fun parts : EngineId × Bytes => .consensus parts.1 parts.2
    | .object [("Seal", value)] =>
        (request? value).map fun parts : EngineId × Bytes => .seal parts.1 parts.2
    | .object [("PreRuntime", value)] =>
        (request? value).map fun parts : EngineId × Bytes => .preRuntime parts.1 parts.2
    | _ => none

instance [Word Number] : Report (Header Number) where
  report header := .object
    [("parent_hash", report header.parentHash), ("number", report header.number),
     ("state_root", report header.stateRoot), ("extrinsics_root", report header.extrinsicsRoot),
     ("digest", report header.digest), ("hash", report header.hash)]

instance {Extrinsic : Type} [Word Number] [Report Extrinsic] :
    Report (Block Number Extrinsic) where
  report block := .object
    [("header", report block.header), ("extrinsics", report block.extrinsics)]

def Header.replaced? [Word Number] (header : Header Number) (document : Json) :
    Option (Header Number) := do
  return { parentHash := ← document.askOr? "parent" header.parentHash
           number := ← document.askOr? "number" header.number
           stateRoot := ← document.askOr? "state_root" header.stateRoot
           extrinsicsRoot := ← document.askOr? "extrinsics_root" header.extrinsicsRoot
           digest := ← document.askOr? "digest" header.digest }

instance : Report Version where
  report version := .object
    [("spec_name", report version.specName), ("impl_name", report version.implementationName),
     ("authoring_version", report version.authoring), ("spec_version", report version.spec),
     ("impl_version", report version.implementation),
     ("transaction_version", report version.transaction)]

instance : Request Version where
  request? document := do
    return { specName := ← document.ask? "spec_name"
             implementationName := ← document.ask? "impl_name"
             authoring := ← document.ask? "authoring_version"
             spec := ← document.ask? "spec_version"
             implementation := ← document.ask? "impl_version"
             transaction := ← document.ask? "transaction_version" }

instance : Report LastUpgrade where
  report last := .object
    [("spec_version", report last.spec), ("spec_name", report last.specName)]

instance : Request LastUpgrade where
  request? document := do
    return ⟨← document.ask? "spec_version", ← document.ask? "spec_name"⟩

/-! ### Accounts -/

instance [Word Number] : Report (AccountInfo Number) where
  report info := .object
    [("nonce", report info.nonce), ("consumers", report info.consumers),
     ("providers", report info.providers), ("sufficients", report info.sufficients),
     ("free", report info.free)]

instance [Word Number] : Request (AccountInfo Number) where
  request? document := do
    return { nonce := ← document.askOr? "nonce" Word.zero
             consumers := ← document.askOr? "consumers" 0
             providers := ← document.askOr? "providers" 0
             sufficients := ← document.askOr? "sufficients" 0
             free := ← document.askOr? "free" 0 }

instance : Named Arrival where
  names := [("Created", .created), ("Existed", .existed)]

instance : Named Departure where
  names := [("Reaped", .reaped), ("Exists", .exists)]

instance {Index : Type} [Report Account] [Report Index] : Report (Address Account Index) where
  report
    | .id account => .single "Id" (report account)
    | .index index => .single "Index" (report index)
    | .raw data => .single "Raw" (report data)
    | .address32 data => .single "Address32" (report data)
    | .address20 data => .single "Address20" (report data)

/-- What an address is asked for by; anything but an address is taken for an account. -/
def Address.request? {Index : Type} (account : Json → Option Account)
    (index : Json → Option Index) : Json → Option (Address Account Index)
  | .object [("Id", value)] => (account value).map .id
  | .object [("Index", value)] => (index value).map .index
  | .object [("Raw", value)] => (StateTransition.request? value).map .raw
  | .object [("Address32", value)] => (StateTransition.request? value).map .address32
  | .object [("Address20", value)] => (StateTransition.request? value).map .address20
  | document => (account document).map .id

instance {Proof : Type} {Index : Type} [Report Account] [Report Index] [Report Proof]
    [Word Number] : Report (Signature (Address Account Index) Proof Number) where
  report signature := .object
    [("address", report signature.place), ("signature", report signature.proof),
     ("era", report signature.terms.era), ("nonce", report signature.terms.nonce),
     ("tip", report signature.terms.tip)]

def Extrinsic.describeTerms {Place Proof Call : Type} [Word Number]
    (extrinsic : Extrinsic Place Proof Number Call) : String :=
  match extrinsic.signature with
  | some signature => "Some(" ++ signature.terms.describe ++ ")"
  | none => "None"

instance {Proof Index Call : Type} [Report Account] [Report Index] [Report Proof] [Report Call]
    [Word Number] : Report (Extrinsic (Address Account Index) Proof Number Call) where
  report extrinsic := .object
    [("signed", report extrinsic.signature), ("call", report extrinsic.call),
     ("debug", report extrinsic.describeTerms)]

/-! ### Events -/

instance : Report Phase where
  report
    | .extrinsic index => .single "ApplyExtrinsic" (report index)
    | .finalization => .text "Finalization"
    | .beginning => .text "Initialization"

instance [Report Account] : Report (SystemEvent Account) where
  report
    | .extrinsicSuccess info => .single "ExtrinsicSuccess" (report info)
    | .extrinsicFailed error info => .single "ExtrinsicFailed" (report (error, info))
    | .codeUpdated => .text "CodeUpdated"
    | .newAccount who => .single "NewAccount" (report who)
    | .killedAccount who => .single "KilledAccount" (report who)
    | .remarked sender hash => .single "Remarked" (report (sender, hash))
    | .upgradeAuthorized code => .single "UpgradeAuthorized" (report code)

instance [Request Account] : Request (SystemEvent Account) where
  request?
    | .text "CodeUpdated" => some .codeUpdated
    | .object [("NewAccount", value)] => (request? value).map .newAccount
    | .object [("KilledAccount", value)] => (request? value).map .killedAccount
    | .object [("Remarked", value)] =>
        (request? value).map fun parts : Account × Hash => .remarked parts.1 parts.2
    | .object [("UpgradeAuthorized", value)] => (request? value).map .upgradeAuthorized
    | _ => none

instance [Report Account] : Report (BalanceEvent Account) where
  report
    | .endowed who free => .single "Endowed" (report (who, free))
    | .dustLost who amount => .single "DustLost" (report (who, amount))
    | .transfer sender receiver amount =>
        .single "Transfer" (.list [report sender, report receiver, report amount])
    | .balanceSet who free => .single "BalanceSet" (report (who, free))
    | .deposit who amount => .single "Deposit" (report (who, amount))
    | .withdraw who amount => .single "Withdraw" (report (who, amount))

instance [Report Account] : Report (Event Account) where
  report
    | .system event => .single "System" (report event)
    | .balances event => .single "Balances" (report event)
    | .feePaid who actual tip =>
        .single "TransactionFeePaid" (.list [report who, report actual, report tip])

instance [Report Account] : Report (EventRecord Account) where
  report record := .object
    [("phase", report record.phase), ("event", report record.event),
     ("topics", report record.topics)]

/-! ### Inherents -/

instance : Report InherentData where
  report data := .object
    [("ids", report (data.toList.map (·.1))), ("encoded", report (InherentData.codec.encode data))]

instance : Report InherentReport where
  report checked := .object
    [("ok", report checked.okay), ("fatal", report checked.fatal),
     ("errors", report checked.faults.toList)]

instance : Named TimestampFault where
  names := [("TooEarly", .tooEarly), ("TooFarInFuture", .tooFarInFuture), ("Missing", .missing)]

/-! ### Fees -/

instance : Report InclusionFee where
  report fee := .object
    [("base_fee", report fee.base), ("len_fee", report fee.length),
     ("adjusted_weight_fee", report fee.weight), ("total", report fee.total)]

instance : Report FeeDetails where
  report details := .object
    [("inclusion_fee", report details.inclusion), ("tip", report details.tip),
     ("final_fee", report details.final)]

instance : Report FeeQuote where
  report quote := .object
    [("weight", report quote.weight), ("class", report quote.kind),
     ("partial_fee", report quote.fee)]

end StateTransition
