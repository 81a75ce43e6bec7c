import StateTransition.Account.Info
import StateTransition.Era

set_option autoImplicit false

/-! What a signed transaction carries beside its call: the blocks for which it is valid, its
place among the transactions of its signer, and a tip. -/

namespace StateTransition

structure Terms (Number : Type) where
  era : Era
  nonce : Number
  tip : Balance
deriving DecidableEq

def Terms.codec {Number : Type} [Word Number] : Codec (Terms Number) :=
  (Era.codec.pair (Codec.compact.pair Codec.compact)).via
    (fun parts => ⟨parts.1, parts.2.1, parts.2.2⟩)
    (fun terms => (terms.era, terms.nonce, terms.tip))

/-- What a signer agrees to without sending it: the rules of the chain, the chain itself, and
the block at which the transaction becomes valid. -/
structure SignedContext where
  spec : UInt32
  transaction : UInt32
  genesis : Hash
  birth : Hash
deriving DecidableEq

def SignedContext.encode (context : SignedContext) : Bytes :=
  Codec.word.encode context.spec ++ Codec.word.encode context.transaction ++
    context.genesis.bytes ++ context.birth.bytes

end StateTransition
