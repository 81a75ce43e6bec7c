import StateTransition.Hash.Blake2
import StateTransition.Hash.Twox

set_option autoImplicit false

/-! Where items are kept: an area of a part of the chain, and in a table a hash of the
row's key. Some hashes keep the key behind them, so that it can be read back. -/

namespace StateTransition

/-- The area of an item: the hash of the part it belongs to, then of its own name. -/
def area (part item : Bytes) : Bytes := twox128 part ++ twox128 item

def areaOf (part item : String) : Bytes := area (Bytes.ofText part) (Bytes.ofText item)

inductive KeepingHash where
  | identity
  | twox64
  | blake128
deriving DecidableEq

namespace KeepingHash

def digest (hash : KeepingHash) (key : Bytes) : Bytes :=
  match hash with
  | .identity => []
  | .twox64 => StateTransition.twox64 key
  | .blake128 => StateTransition.blake128 key

def offset : KeepingHash → Nat
  | .identity => 0
  | .twox64 => 8
  | .blake128 => 16

def apply (hash : KeepingHash) (key : Bytes) : Bytes := hash.digest key ++ key

/-- Reads back the key behind its digest, unless the bytes end before it. -/
def reverse? (hash : KeepingHash) (hashed : Bytes) : Option Bytes :=
  if hash.offset ≤ hashed.length then some (hashed.drop hash.offset) else none

def tooShort : String := "Invalid reverse: hash length too short"

theorem digest_length (hash : KeepingHash) (key : Bytes) :
    (hash.digest key).length = hash.offset := by
  cases hash with
  | identity => rfl
  | twox64 => exact Twox.digest_length 1 key
  | blake128 => exact Blake2.digest_length key (by decide)

theorem reverse?_apply (hash : KeepingHash) (key : Bytes) :
    hash.reverse? (hash.apply key) = some key := by
  have sized := hash.digest_length key
  have enough : hash.offset ≤ (hash.apply key).length := by
    rw [apply, List.length_append, sized]
    exact Nat.le_add_right _ _
  rw [reverse?, if_pos enough, apply, ← sized, List.drop_left]

/-- Two keys never meet, whatever their digests are. -/
theorem apply_injective (hash : KeepingHash) {left right : Bytes}
    (same : hash.apply left = hash.apply right) : left = right := by
  have reversed := congrArg hash.reverse? same
  simpa [reverse?_apply] using reversed

end KeepingHash

inductive KeyHash where
  | keeping (hash : KeepingHash)
  | blake128
  | blake256
  | twox128
  | twox256
deriving DecidableEq

namespace KeyHash

def apply (hash : KeyHash) (key : Bytes) : Bytes :=
  match hash with
  | .keeping hash => hash.apply key
  | .blake128 => StateTransition.blake128 key
  | .blake256 => (StateTransition.blake256 key).bytes
  | .twox128 => StateTransition.twox128 key
  | .twox256 => StateTransition.twox256 key

/-- The longest hash of a key of at most so many bytes. -/
def longest (hash : KeyHash) (keyLength : Nat) : Nat :=
  match hash with
  | .keeping hash => hash.offset + keyLength
  | .blake128 => 16
  | .blake256 => 32
  | .twox128 => 16
  | .twox256 => 32

/-- The key of a row, if the hash keeps it and it is there. -/
def reverse? (hash : KeyHash) (hashed : Bytes) : Option Bytes :=
  match hash with
  | .keeping hash => hash.reverse? hashed
  | _ => none

end KeyHash

end StateTransition
