import StateTransition.Codec.Compact
import StateTransition.Hash.Blake2
import StateTransition.Hash.Sha512
import StateTransition.Signature.Curve

set_option autoImplicit false

/-! Ed25519 key pairs and signatures. Verification recomputes the signature's point and
compares encodings, so it clears no cofactor; a scalar that is not reduced is refused,
while a public key only has to be the encoding of some point. -/

namespace StateTransition.Ed25519

open Curve

abbrev PublicKey := Octets 32

abbrev Signature := Octets 64

abbrev Seed := Octets 32

/-- The secret scalar: bits 0, 1, 2 and 255 are cleared, bit 254 is set. -/
def secretScalar (seed : Seed) : Nat :=
  let place := 1 <<< 254
  let low := Bytes.number ((sha512 seed.bytes).take 32) % place
  place + (low - low % 8)

def nonceKey (seed : Seed) : Bytes := (sha512 seed.bytes).drop 32

def scalarOf (digest : Bytes) : Nat := Bytes.number digest % groupOrder

def publicKey (seed : Seed) : PublicKey := (Point.base.times (secretScalar seed)).encode

def sign (seed : Seed) (message : Bytes) : Signature :=
  let nonce := scalarOf (sha512 (nonceKey seed ++ message))
  let point := (Point.base.times nonce).encode
  let challenge := scalarOf (sha512 (point.bytes ++ (publicKey seed).bytes ++ message))
  let scalar := (nonce + challenge * secretScalar seed) % groupOrder
  .fit 64 (point.bytes ++ Bytes.littleEndian 32 scalar)

def verify (signature : Signature) (message : Bytes) (signer : PublicKey) : Bool :=
  let scalar := Bytes.number (signature.bytes.drop 32)
  match Point.decode? signer with
  | none => false
  | some key =>
      let point := signature.bytes.take 32
      let challenge := scalarOf (sha512 (point ++ signer.bytes ++ message))
      scalar < groupOrder &&
        ((Point.base.times scalar).plus (key.negate.times challenge)).encode.bytes == point

def seedOfPhrase (phrase : String) : Seed := blake256 (Bytes.ofText phrase)

end StateTransition.Ed25519
