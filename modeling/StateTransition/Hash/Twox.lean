import StateTransition.Bytes

set_option autoImplicit false

/-! The 64-bit xxHash, and the wider digests that join it over several seeds. They are
fast and not collision resistant. -/

namespace StateTransition.Twox

def prime1 : UInt64 := 0x9e3779b185ebca87
def prime2 : UInt64 := 0xc2b2ae3d27d4eb4f
def prime3 : UInt64 := 0x165667b19e3779f9
def prime4 : UInt64 := 0x85ebca77c2b2ae63
def prime5 : UInt64 := 0x27d4eb2f165667c5

def rotateLeft (word : UInt64) (amount : UInt64) : UInt64 :=
  (word <<< amount) ||| (word >>> (64 - amount))

def round (lane input : UInt64) : UInt64 :=
  rotateLeft (lane + input * prime2) 31 * prime1

def merge (hash lane : UInt64) : UInt64 :=
  (hash ^^^ round 0 lane) * prime1 + prime4

def word (bytes : Bytes) : UInt64 :=
  UInt64.ofNat (Bytes.number bytes)

structure Lanes where
  first : UInt64
  second : UInt64
  third : UInt64
  fourth : UInt64

def Lanes.start (seed : UInt64) : Lanes where
  first := seed + prime1 + prime2
  second := seed + prime2
  third := seed
  fourth := seed - prime1

def Lanes.stripe (lanes : Lanes) (block : Bytes) : Lanes where
  first := round lanes.first (word (block.take 8))
  second := round lanes.second (word ((block.drop 8).take 8))
  third := round lanes.third (word ((block.drop 16).take 8))
  fourth := round lanes.fourth (word ((block.drop 24).take 8))

def Lanes.join (lanes : Lanes) : UInt64 :=
  let sum := rotateLeft lanes.first 1 + rotateLeft lanes.second 7 +
    rotateLeft lanes.third 12 + rotateLeft lanes.fourth 18
  merge (merge (merge (merge sum lanes.first) lanes.second) lanes.third) lanes.fourth

/-- Stripes `blocks` blocks of 32 bytes and leaves the rest of the message. -/
def stripes (lanes : Lanes) : (blocks : Nat) → Bytes → Lanes × Bytes
  | 0, message => (lanes, message)
  | blocks + 1, message =>
      stripes (lanes.stripe (message.take 32)) blocks (message.drop 32)

/-- Mixes in `words` words of eight bytes and leaves the rest of the tail. -/
def mixWords (hash : UInt64) : (words : Nat) → Bytes → UInt64 × Bytes
  | 0, tail => (hash, tail)
  | words + 1, tail =>
      mixWords (rotateLeft (hash ^^^ round 0 (word (tail.take 8))) 27 * prime1 + prime4) words
        (tail.drop 8)

/-- Mixes in a word of four bytes if there is one. -/
def mixHalf (hash : UInt64) (tail : Bytes) : UInt64 × Bytes :=
  if 4 ≤ tail.length then
    (rotateLeft (hash ^^^ (word (tail.take 4) * prime1)) 23 * prime2 + prime3, tail.drop 4)
  else (hash, tail)

def mixByte (hash : UInt64) (byte : UInt8) : UInt64 :=
  rotateLeft (hash ^^^ (byte.toUInt64 * prime5)) 11 * prime1

/-- Mixes in the last bytes: words of eight, one of four, then single bytes. -/
def finish (hash : UInt64) (tail : Bytes) : UInt64 :=
  let (hash, afterWords) := mixWords hash (tail.length / 8) tail
  let (hash, single) := mixHalf hash afterWords
  single.foldl mixByte hash

def avalanche (hash : UInt64) : UInt64 :=
  let hash := (hash ^^^ (hash >>> 33)) * prime2
  let hash := (hash ^^^ (hash >>> 29)) * prime3
  hash ^^^ (hash >>> 32)

def hash64 (seed : UInt64) (message : Bytes) : UInt64 :=
  let (lanes, tail) := stripes (.start seed) (message.length / 32) message
  let striped := if 32 ≤ message.length then lanes.join else seed + prime5
  avalanche (finish (striped + UInt64.ofNat message.length) tail)

def digest (count : Nat) (message : Bytes) : Bytes :=
  (List.range count).flatMap fun seed =>
    Bytes.littleEndian 8 (hash64 (UInt64.ofNat seed) message).toNat

theorem digest_length (count : Nat) (message : Bytes) :
    (digest count message).length = 8 * count := by
  induction count with
  | zero => rfl
  | succ count ih =>
    simp only [digest, List.range_succ, List.flatMap_append, List.length_append] at ih ⊢
    simp [ih]
    omega

end StateTransition.Twox

namespace StateTransition

def twox64 (message : Bytes) : Bytes := Twox.digest 1 message

def twox128 (message : Bytes) : Bytes := Twox.digest 2 message

def twox256 (message : Bytes) : Bytes := Twox.digest 4 message

end StateTransition
