import StateTransition.Codec.Compact

set_option autoImplicit false

/-! What is recorded of an account. An account exists as long as something provides for it,
and has to go on existing as long as something depends on it. -/

namespace StateTransition

abbrev Balance := UInt64

abbrev RefCount := UInt32

structure AccountInfo (Number : Type) where
  /-- How many transactions it has sent. -/
  nonce : Number
  /-- How much depends on its existence. -/
  consumers : RefCount
  /-- How much allows it to exist. -/
  providers : RefCount
  /-- How much allows it to exist for its own purposes only. -/
  sufficients : RefCount
  free : Balance
deriving DecidableEq

namespace AccountInfo

variable {Number : Type} [Word Number]

def blank : AccountInfo Number where
  nonce := Word.zero
  consumers := 0
  providers := 0
  sufficients := 0
  free := 0

def codec : Codec (AccountInfo Number) :=
  (Codec.word.pair (Codec.word.pair (Codec.word.pair (Codec.word.pair Codec.word)))).via
    (fun parts => ⟨parts.1, parts.2.1, parts.2.2.1, parts.2.2.2.1, parts.2.2.2.2⟩)
    (fun info => (info.nonce, info.consumers, info.providers, info.sufficients, info.free))

end AccountInfo

end StateTransition
