import StateTransition.Codec.Compact

set_option autoImplicit false

/-! Versions of a chain's rules, and when rules are an upgrade of others. -/

namespace StateTransition

structure Version where
  specName : String
  implementationName : String
  authoring : UInt32
  spec : UInt32
  implementation : UInt32
  transaction : UInt32
deriving DecidableEq

structure LastUpgrade where
  spec : UInt32
  specName : String
deriving DecidableEq

namespace Version

def codec : Codec Version :=
  (Codec.text.pair (Codec.text.pair (Codec.word.pair (Codec.word.pair
    (Codec.word.pair Codec.word))))).via
    (fun parts => ⟨parts.1, parts.2.1, parts.2.2.1, parts.2.2.2.1, parts.2.2.2.2.1,
      parts.2.2.2.2.2⟩)
    (fun version => (version.specName, version.implementationName, version.authoring,
      version.spec, version.implementation, version.transaction))

def describe (version : Version) : String :=
  version.specName ++ "-" ++ Word.decimal version.spec ++ " (" ++
    version.implementationName ++ "-" ++ Word.decimal version.implementation ++ ".tx" ++
    Word.decimal version.transaction ++ ".au" ++ Word.decimal version.authoring ++ ")"

/-- Whether the rules have another name than the last ones or a greater version. -/
def upgrades (version : Version) (last : LastUpgrade) : Bool :=
  last.spec < version.spec || version.specName != last.specName

def remembered (version : Version) : LastUpgrade := ⟨version.spec, version.specName⟩

end Version

def LastUpgrade.codec : Codec LastUpgrade :=
  (Codec.compact.pair Codec.text).via (fun parts => ⟨parts.1, parts.2⟩)
    (fun last => (last.spec, last.specName))

end StateTransition
