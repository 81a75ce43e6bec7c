import StateTransition.Chain.Genesis
import StateTransition.Json.Document
import StateTransition.Json.Reader
import StateTransition.Testnet.Keyring

set_option autoImplicit false

/-! What the test network begins with, as a document. Sections that are left out have their
defaults. -/

namespace StateTransition.Testnet

abbrev Genesis := Endowments AccountId

namespace Genesis

def plain : Genesis := ⟨[], .one⟩

def balancesSection : JsonFormat (List (AccountId × Balance)) where
  write balances := .single "balances" ((AccountId.format.pair .number).list.write balances)
  read? document := do
    let fields ← document.record? ["balances"] true false
    (AccountId.format.pair .number).list.field? fields "balances"

def paymentSection : JsonFormat Fixed where
  write multiplier := .single "multiplier" (Fixed.format.write multiplier)
  read? document := do
    let fields ← document.record? ["multiplier"] true false
    Fixed.format.field? fields "multiplier"

def systemSection : JsonFormat Unit where
  write _ := .object []
  read? document := do
    let _ ← document.record? [] true false
    return ()

/-- A section that is there has to be read; one that is not there has a default. -/
def sectionOr {α : Type} (format : JsonFormat α) (fields : List (String × Json)) (name : String)
    (missing : α) : Option α :=
  match fields.lookup name with
  | some document => format.read? document
  | none => some missing

def format : JsonFormat Genesis where
  write genesis := .object
    [("system", systemSection.write ()),
     ("balances", balancesSection.write genesis.balances),
     ("transactionPayment", paymentSection.write genesis.multiplier)]
  read? document := do
    let fields ← document.record? ["system", "balances", "transactionPayment"] true true
    sectionOr systemSection fields "system" ()
    return ⟨← sectionOr balancesSection fields "balances" plain.balances,
      ← sectionOr paymentSection fields "transactionPayment" plain.multiplier⟩

/-- What is said of a text that is no document of a genesis. -/
def unreadable : String := "Invalid JSON blob"

def ofText? (source : String) : Option Genesis := (Json.parse? source).bind format.read?

def toText (genesis : Genesis) : String := (format.write genesis).pretty

def development (balance : Balance) : Genesis where
  balances := [Person.alice, .bob, .charlie].map fun person => (person.account, balance)
  multiplier := .one

def endowment : Balance := (1 : Balance) <<< 60

def state (genesis : Genesis) : Except String Store :=
  match rules.begin genesis ⟨.empty, []⟩ with
  | .ok (.ok ()) world => .ok world.store.flatten
  | .ok (.error fault) _ => .error fault
  | .error trap _ => .error trap.message

end Genesis

end StateTransition.Testnet
