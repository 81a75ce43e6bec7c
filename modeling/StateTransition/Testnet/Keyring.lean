import StateTransition.Testnet.Network

set_option autoImplicit false

/-! Well-known accounts, and how they sign. -/

namespace StateTransition.Testnet

inductive Person where
  | alice
  | bob
  | charlie
  | dave
  | eve
  | ferdie
deriving DecidableEq

namespace Person

def all : List Person := [.alice, .bob, .charlie, .dave, .eve, .ferdie]

def name : Person → String
  | .alice => "Alice"
  | .bob => "Bob"
  | .charlie => "Charlie"
  | .dave => "Dave"
  | .eve => "Eve"
  | .ferdie => "Ferdie"

def ofName? (name : String) : Option Person := all.find? (·.name == name)

def phrase (person : Person) : String := "//" ++ person.name

def seed (person : Person) : Ed25519.Seed := Ed25519.seedOfPhrase person.phrase

def account (person : Person) : AccountId := Ed25519.publicKey person.seed

def accounts : List (Person × AccountId) := all.map fun person => (person, person.account)

def ofAccount? (account : AccountId) : Option Person :=
  (accounts.find? (·.2 = account)).map (·.1)

end Person

/-- What persons sign if nothing else is said: for blocks of the first era of 256. -/
def plainTerms (nonce : Number) (tip : Balance) : Terms Number :=
  { era := .around 256 0, nonce, tip }

def Person.sign (person : Person) (call : Call) (terms : Terms Number) :
    Query (Except Rejection Extrinsic) := do
  match ← rules.signedParts terms Check.all with
  | .error cause => return .error cause
  | .ok context =>
      let payload := signedPayload (Call.codec.encode call) terms context
      let proof := Ed25519.sign person.seed payload
      return .ok ⟨some ⟨.id person.account, proof, terms⟩, call⟩

end StateTransition.Testnet
