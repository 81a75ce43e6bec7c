import StateTransition.Account.Id
import StateTransition.Arithmetic.Fixed
import StateTransition.Event.Basic
import StateTransition.Fee.Details
import StateTransition.Json.Format
import StateTransition.Version

set_option autoImplicit false

/-! The documents in which clients are told of versions, weights, fees and accounts. -/

namespace StateTransition

def Version.format : JsonFormat Version where
  write version := .object
    [("specName", .text version.specName),
     ("implName", .text version.implementationName),
     ("authoringVersion", JsonFormat.number.write version.authoring),
     ("specVersion", JsonFormat.number.write version.spec),
     ("implVersion", JsonFormat.number.write version.implementation),
     ("transactionVersion", JsonFormat.number.write version.transaction)]
  read? document := do
    let fields ← document.record? ["specName", "implName", "authoringVersion", "specVersion",
      "implVersion", "transactionVersion"] false false
    return { specName := ← JsonFormat.text.field? fields "specName"
             implementationName := ← JsonFormat.text.field? fields "implName"
             authoring := ← JsonFormat.number.field? fields "authoringVersion"
             spec := ← JsonFormat.number.field? fields "specVersion"
             implementation := ← JsonFormat.number.field? fields "implVersion"
             transaction := ← JsonFormat.number.field? fields "transactionVersion" }

def Weight.format : JsonFormat Weight where
  write weight := .object
    [("ref_time", JsonFormat.number.write weight.refTime),
     ("proof_size", JsonFormat.number.write weight.proofSize)]
  read? document := do
    let fields ← document.record? ["ref_time", "proof_size"] false false
    return ⟨← JsonFormat.number.field? fields "ref_time",
      ← JsonFormat.number.field? fields "proof_size"⟩

def DispatchClass.documentName : DispatchClass → String
  | .normal => "normal"
  | .operational => "operational"
  | .mandatory => "mandatory"

def DispatchClass.format : JsonFormat DispatchClass where
  write kind := .text kind.documentName
  read? document := do
    let name ← document.chosenPlain?
    DispatchClass.all.find? (·.documentName == name)

def Phase.format : JsonFormat Phase where
  write
    | .extrinsic index => .single "ApplyExtrinsic" (JsonFormat.number.write index)
    | .finalization => .text "Finalization"
    | .beginning => .text "Initialization"
  read? document :=
    match document.chosen? with
    | some ("ApplyExtrinsic", some index) => (JsonFormat.number.read? index).map .extrinsic
    | _ =>
        match document.chosenPlain? with
        | some "Finalization" => some .finalization
        | some "Initialization" => some .beginning
        | _ => none

def AccountId.format : JsonFormat AccountId := .named AccountId.display AccountId.parse?

def InclusionFee.format : JsonFormat InclusionFee where
  write fee := .object
    [("baseFee", JsonFormat.number.write fee.base),
     ("lenFee", JsonFormat.number.write fee.length),
     ("adjustedWeightFee", JsonFormat.number.write fee.weight)]
  read? document := do
    let fields ← document.record? ["baseFee", "lenFee", "adjustedWeightFee"] false false
    return ⟨← JsonFormat.number.field? fields "baseFee",
      ← JsonFormat.number.field? fields "lenFee",
      ← JsonFormat.number.field? fields "adjustedWeightFee"⟩

/-- Clients are not told of tips. -/
def FeeDetails.format : JsonFormat FeeDetails where
  write details := .single "inclusionFee" (InclusionFee.format.option.write details.inclusion)
  read? document := do
    let fields ← document.record? ["inclusionFee"] false false
    let inclusion ← InclusionFee.format.option.read? ((fields.lookup "inclusionFee").getD .null)
    return ⟨inclusion, 0⟩

def FeeQuote.format : JsonFormat FeeQuote where
  write quote := .object
    [("weight", Weight.format.write quote.weight),
     ("class", DispatchClass.format.write quote.kind),
     ("partialFee", JsonFormat.number.write quote.fee)]
  read? document := do
    let fields ← document.record? ["weight", "class", "partialFee"] false false
    return ⟨← Weight.format.field? fields "weight", ← DispatchClass.format.field? fields "class",
      ← JsonFormat.number.field? fields "partialFee"⟩

/-- Reads the parts of a fixed-point number: digits, with or without a plus sign. -/
def Fixed.ofDigits? (text : String) : Option Fixed :=
  let digits :=
    match text.toList with
    | '+' :: rest => rest
    | chars => chars
  if digits.isEmpty || !digits.all Char.isDigit then none
  else
    (Word.ofNat? (digits.foldl (fun value digit => 10 * value + (digit.toNat - 48)) 0)).map
      Fixed.mk

def Fixed.format : JsonFormat Fixed :=
  .named (fun number => Word.decimal number.parts) Fixed.ofDigits?

/-! ### By the names of the types -/

/-- The document that is written for what a document is read as. -/
def JsonFormat.again? {α : Type} (format : JsonFormat α) (document : Json) : Option Json :=
  (format.read? document).map format.write

/-- The types of documents. An authority is a number; a signature that shows what was signed
is a pair of the signer and the bytes. -/
def documentTypes : List (String × (Json → Option Json)) :=
  let bytes : JsonFormat (List UInt8) := .list .number
  [("RuntimeVersion", Version.format.again?),
   ("Weight", Weight.format.again?),
   ("DispatchClass", DispatchClass.format.again?),
   ("Phase", Phase.format.again?),
   ("AccountId", AccountId.format.again?),
   ("InclusionFee", InclusionFee.format.again?),
   ("FeeDetails", FeeDetails.format.again?),
   ("RuntimeDispatchInfo", FeeQuote.format.again?),
   ("UintAuthorityId", (.number : JsonFormat UInt64).again?),
   ("TestSignature", ((.number : JsonFormat UInt64).pair bytes).again?)]

end StateTransition
