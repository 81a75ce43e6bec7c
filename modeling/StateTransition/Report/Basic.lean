import StateTransition.Arithmetic.Fixed
import StateTransition.Arithmetic.Share
import StateTransition.Codec.Compact
import StateTransition.Json.Value

set_option autoImplicit false

/-! How values are reported in documents, and how they are asked for. Numbers of more than 32
bits are texts in decimal digits; byte strings are hexadecimal. -/

namespace StateTransition

class Report (α : Type) where
  report : α → Json

class Request (α : Type) where
  request? : Json → Option α

/-- Types whose values are called by names. -/
class Named (α : Type) where
  names : List (String × α)

export Report (report)
export Request (request?)

variable {α β ε : Type}

namespace Json

def ask? [Request α] (document : Json) (name : String) : Option α :=
  request? (document.field name)

def askOr? [Request α] (document : Json) (name : String) (missing : α) : Option α :=
  if (document.field name).isNull then some missing else document.ask? name

/-- A failure of some kind, with its wording if it has one of its own. -/
def failure (kind : String) (wording : Option String) : Json :=
  .object (("error", .text kind) :: (wording.map fun text => ("message", .text text)).toList)

def items? : Json → Option (List Json)
  | list items => some items
  | _ => none

end Json

instance : Report Json where
  report := id

instance : Request Json where
  request? := some

/-! ### Texts and numbers -/

instance : Report String where
  report := .text

instance : Request String where
  request?
    | .text text => some text
    | _ => none

instance : Report Bool where
  report := .bool

instance : Request Bool where
  request?
    | .bool value => some value
    | _ => none

instance : Report Unit where
  report _ := .null

instance : Report Nat where
  report := .natural

def ofDigits? (text : String) : Option Nat :=
  if text.isEmpty || !text.toList.all Char.isDigit then none
  else some (text.toList.foldl (fun value digit => 10 * value + (digit.toNat - 48)) 0)

instance : Request Nat where
  request?
    | .natural value => some value
    | .text text => ofDigits? text
    | _ => none

/-- Numbers of 32 bits and less are numbers of the document, greater ones are texts. -/
def reportWord [Word α] (word : α) : Json :=
  if Word.width α ≤ 4 then .natural (Word.toNat word) else .text (Word.decimal word)

instance (priority := low) [Word α] : Report α where
  report := reportWord

instance (priority := low) [Word α] : Request α where
  request? document := (request? document : Option Nat).bind Word.ofNat?

instance : Report Fixed where
  report number := report number.parts

instance : Request Fixed where
  request? document := (request? document).map Fixed.mk

instance {whole : Nat} : Report (Share whole) where
  report share := .text (toString share.parts)

instance {whole : Nat} : Request (Share whole) where
  request? document := (request? document).map (Share.ofParts whole)

/-! ### Byte strings -/

/-- Byte strings are asked for by their digits, or by the digits of a part and the number of
times it is repeated. -/
def requestBytes? : Json → Option Bytes
  | .text text => Bytes.ofHex? text
  | document => do
      match ← (document.field "rep").items? with
      | [part, count] => do
          let part ← Bytes.ofHex? (← request? part)
          return (List.replicate (← request? count) part).flatten
      | _ => none

instance (priority := 2000) : Report Bytes where
  report bytes := .text (Bytes.hex bytes)

instance (priority := 2000) : Request Bytes where
  request? := requestBytes?

instance {length : Nat} : Report (Octets length) where
  report octets := report octets.bytes

instance {length : Nat} : Request (Octets length) where
  request? document := do
    let bytes ← requestBytes? document
    if sized : bytes.length = length then some ⟨bytes, sized⟩ else none

/-! ### Composition -/

instance [Report α] : Report (Option α) where
  report
    | none => .null
    | some value => report value

instance [Request α] : Request (Option α) where
  request?
    | .null => some none
    | document => (request? document).map some

instance [Report α] : Report (List α) where
  report values := .list (values.map report)

instance [Request α] : Request (List α) where
  request?
    | .list items => items.mapM request?
    | _ => none

instance [Report α] [Report β] : Report (α × β) where
  report value := .list [report value.1, report value.2]

instance [Request α] [Request β] : Request (α × β) where
  request?
    | .list [first, second] => do return (← request? first, ← request? second)
    | _ => none

instance [Report ε] [Report α] : Report (Except ε α) where
  report
    | .ok value => .single "ok" (report value)
    | .error cause => .single "err" (report cause)

instance [Request ε] [Request α] : Request (Except ε α) where
  request? document :=
    match document.field? "ok" with
    | some value => (request? value).map .ok
    | none => (document.ask? "err").map .error

instance (priority := low) [Named α] [DecidableEq α] : Report α where
  report value := report ((Named.names.find? (·.2 = value)).map (·.1))

instance (priority := low) [Named α] : Request α where
  request? document := (request? document).bind fun name : String => Named.names.lookup name

/-! ### Encoded values -/

/-- The encoded form of a value that is asked for with the name of its type. -/
def requestEncoded? : Json → Option Bytes
  | .object [("u32", value)] => (request? value).map (Codec.word : Codec UInt32).encode
  | .object [("u64", value)] => (request? value).map (Codec.word : Codec UInt64).encode
  | .object [("bytes", value)] => (request? value).map Codec.bytes.encode
  | .object [("pair", value)] =>
      (request? value).map (Codec.word.pair Codec.word : Codec (UInt64 × UInt32)).encode
  | .object [("bool", value)] => (request? value).map Codec.bool.encode
  | .object [("unit", _)] => some []
  | _ => none

end StateTransition
