import StateTransition.Word

set_option autoImplicit false

/-! Codecs: an encoder and a decoder of one type, and the combinators that build them.
A decoder takes what it needs from the front of a byte string and returns the rest. -/

namespace StateTransition

inductive CodecError where
  | malformed
  | transactionVersion
  | lengthPrefix
  | periodAndPhase
deriving DecidableEq

/-- The wording of a cause that has one of its own. -/
def CodecError.message? : CodecError → Option String
  | .malformed => none
  | .transactionVersion => some "Invalid transaction version"
  | .lengthPrefix => some "Invalid length prefix"
  | .periodAndPhase => some "Invalid period and phase"

abbrev Decoded (α : Type) := Except CodecError (α × Bytes)

structure Codec (α : Type) where
  encode : α → Bytes
  decode : Bytes → Decoded α

namespace Codec

variable {α β : Type}

/-- The codec reads back every valid value whatever follows it, and reads nothing but
what it writes. -/
structure Faithful (codec : Codec α) (valid : α → Prop) : Prop where
  decode_encode : ∀ value rest, valid value →
    codec.decode (codec.encode value ++ rest) = .ok (value, rest)
  encode_of_decode : ∀ bytes value rest, codec.decode bytes = .ok (value, rest) →
    valid value ∧ bytes = codec.encode value ++ rest

def decodeAll (codec : Codec α) (bytes : Bytes) : Except CodecError α :=
  match codec.decode bytes with
  | .ok (value, []) => .ok value
  | .ok (_, _ :: _) => .error .malformed
  | .error cause => .error cause

def decodeFront? (codec : Codec α) (bytes : Bytes) : Option α :=
  match codec.decode bytes with
  | .ok (value, _) => some value
  | .error _ => none

/-! ### Bytes and words -/

def unit : Codec Unit where
  encode _ := []
  decode bytes := .ok ((), bytes)

def byte : Codec UInt8 where
  encode value := [value]
  decode
    | [] => .error .malformed
    | value :: rest => .ok (value, rest)

def takeBytes (count : Nat) (bytes : Bytes) : Decoded Bytes :=
  if count ≤ bytes.length then .ok (bytes.take count, bytes.drop count)
  else .error .malformed

def octets (length : Nat) : Codec (Octets length) where
  encode value := value.bytes
  decode bytes :=
    match takeBytes length bytes with
    | .ok (front, rest) => .ok (.fit length front, rest)
    | .error cause => .error cause

/-- A number in all the bytes of its width, least significant first. -/
def word [Word α] : Codec α where
  encode value := Bytes.littleEndian (Word.width α) (Word.toNat value)
  decode bytes :=
    match takeBytes (Word.width α) bytes with
    | .ok (front, rest) => .ok (Word.clamp (Bytes.number front), rest)
    | .error cause => .error cause

def bool : Codec Bool where
  encode value := [if value then 1 else 0]
  decode
    | 0 :: rest => .ok (false, rest)
    | 1 :: rest => .ok (true, rest)
    | _ => .error .malformed

/-! ### Composition -/

def pair (left : Codec α) (right : Codec β) : Codec (α × β) where
  encode value := left.encode value.1 ++ right.encode value.2
  decode bytes :=
    match left.decode bytes with
    | .error cause => .error cause
    | .ok (first, afterFirst) =>
        match right.decode afterFirst with
        | .error cause => .error cause
        | .ok (second, rest) => .ok ((first, second), rest)

/-- The codec of a type whose values are made from, and taken apart into, another's. -/
def via (codec : Codec α) (make : α → β) (parts : β → α) : Codec β where
  encode value := codec.encode (parts value)
  decode bytes :=
    match codec.decode bytes with
    | .ok (value, rest) => .ok (make value, rest)
    | .error cause => .error cause

def decodeMany (codec : Codec α) : (count : Nat) → Bytes → Decoded (List α)
  | 0, bytes => .ok ([], bytes)
  | count + 1, bytes =>
      match codec.decode bytes with
      | .error cause => .error cause
      | .ok (first, afterFirst) =>
          match decodeMany codec count afterFirst with
          | .error cause => .error cause
          | .ok (others, rest) => .ok (first :: others, rest)

def encodeMany (codec : Codec α) : List α → Bytes
  | [] => []
  | first :: others => codec.encode first ++ encodeMany codec others

def option (codec : Codec α) : Codec (Option α) where
  encode
    | none => [0]
    | some value => 1 :: codec.encode value
  decode
    | 0 :: rest => .ok (none, rest)
    | 1 :: rest =>
        match codec.decode rest with
        | .ok (value, after) => .ok (some value, after)
        | .error cause => .error cause
    | _ => .error .malformed

/-- A success byte 0 before the value, or a failure byte 1 before the error. -/
def result {ε : Type} (failure : Codec ε) (success : Codec α) : Codec (Except ε α) where
  encode
    | .ok value => 0 :: success.encode value
    | .error cause => 1 :: failure.encode cause
  decode
    | 0 :: rest =>
        match success.decode rest with
        | .ok (value, after) => .ok (.ok value, after)
        | .error cause => .error cause
    | 1 :: rest =>
        match failure.decode rest with
        | .ok (value, after) => .ok (.error value, after)
        | .error cause => .error cause
    | _ => .error .malformed

/-! ### Tagged unions -/

/-- One alternative of a union: its tag, the codec of what it carries, and how that is
put in and taken out. -/
structure Alternative (α : Type) where
  tag : UInt8
  Payload : Type
  payload : Codec Payload
  inject : Payload → α
  project : α → Option Payload

def Alternative.plain [DecidableEq α] (tag : UInt8) (value : α) : Alternative α where
  tag
  Payload := Unit
  payload := unit
  inject _ := value
  project other := if other = value then some () else none

def Alternative.carrying {π : Type} (tag : UInt8) (payload : Codec π) (inject : π → α)
    (project : α → Option π) : Alternative α :=
  { tag, Payload := π, payload, inject, project }

def encodeAlternatives (value : α) : List (Alternative α) → Bytes
  | [] => []
  | alternative :: others =>
      match alternative.project value with
      | some payload => alternative.tag :: alternative.payload.encode payload
      | none => encodeAlternatives value others

def decodeAlternatives (tag : UInt8) (bytes : Bytes) : List (Alternative α) → Decoded α
  | [] => .error .malformed
  | alternative :: others =>
      if alternative.tag = tag then
        match alternative.payload.decode bytes with
        | .ok (payload, rest) => .ok (alternative.inject payload, rest)
        | .error cause => .error cause
      else decodeAlternatives tag bytes others

/-- A tag byte, then what the alternative of that tag carries. -/
def tagged (alternatives : List (Alternative α)) : Codec α where
  encode value := encodeAlternatives value alternatives
  decode
    | [] => .error .malformed
    | tag :: rest => decodeAlternatives tag rest alternatives

/-- The values in order, each as the byte of its place. -/
def enumeration [DecidableEq α] (values : List α) : Codec α :=
  tagged (values.mapIdx fun place value => .plain (UInt8.ofNat place) value)

end Codec

end StateTransition
