import StateTransition.Codec.Basic

set_option autoImplicit false

/-! Compact numbers, in as few bytes as their size allows, and the sequences whose
length they announce. The two lowest bits of the first byte say how many bytes there
are; a number written in more bytes than it needs is refused. -/

namespace StateTransition.Codec

variable {α : Type}

def digitCount (value : Nat) : Nat := Nat.log2 value / 8 + 1

def encodeCompact (value : Nat) : Bytes :=
  if value < 64 then Bytes.littleEndian 1 (4 * value)
  else if value < 16384 then Bytes.littleEndian 2 (4 * value + 1)
  else if value < 1073741824 then Bytes.littleEndian 4 (4 * value + 2)
  else
    let count := digitCount value
    UInt8.ofNat (4 * (count - 4) + 3) :: Bytes.littleEndian count value

/-- A number of `count` bytes, of which it is one part in `scale`, that is at least `least`. -/
def decodeAtLeast (count least : Nat) (bytes : Bytes) (scale : Nat) : Decoded Nat :=
  match takeBytes count bytes with
  | .error cause => .error cause
  | .ok (front, rest) =>
      let value := Bytes.number front / scale
      if least ≤ value then .ok (value, rest) else .error .malformed

def decodeCompact : Bytes → Decoded Nat
  | [] => .error .malformed
  | first :: rest =>
      match first.toNat % 4 with
      | 0 => .ok (first.toNat / 4, rest)
      | 1 => decodeAtLeast 2 64 (first :: rest) 4
      | 2 => decodeAtLeast 4 16384 (first :: rest) 4
      | _ =>
          let count := first.toNat / 4 + 4
          decodeAtLeast count (max 1073741824 (Bytes.span (count - 1))) rest 1

def compact [Word α] : Codec α where
  encode value := encodeCompact (Word.toNat value)
  decode bytes :=
    match decodeCompact bytes with
    | .error cause => .error cause
    | .ok (value, rest) =>
        match Word.ofNat? value with
        | some word => .ok (word, rest)
        | none => .error .malformed

/-- The number of items a sequence may have, and one more. -/
def lengthBound : Nat := 4294967296

def decodeLength (bytes : Bytes) : Decoded Nat :=
  match decodeCompact bytes with
  | .error cause => .error cause
  | .ok (count, rest) =>
      if count < lengthBound then .ok (count, rest) else .error .malformed

def list (item : Codec α) : Codec (List α) where
  encode values := encodeCompact values.length ++ encodeMany item values
  decode bytes :=
    match decodeLength bytes with
    | .error cause => .error cause
    | .ok (count, rest) => decodeMany item count rest

def bytes : Codec Bytes where
  encode value := encodeCompact value.length ++ value
  decode input :=
    match decodeLength input with
    | .error cause => .error cause
    | .ok (count, rest) => takeBytes count rest

def text : Codec String where
  encode value := bytes.encode (Bytes.ofText value)
  decode input :=
    match bytes.decode input with
    | .error cause => .error cause
    | .ok (raw, rest) =>
        match Bytes.toText? raw with
        | some value => .ok (value, rest)
        | none => .error .malformed

end StateTransition.Codec
