import StateTransition.Report.Overview
import StateTransition.Store.Layer
import StateTransition.Testnet.Report

set_option autoImplicit false

/-! What is fixed for all chains and for the test network. -/

namespace StateTransition.Constants

/-! ### The longest forms

Numbers that have a short form count as much as their words. -/

def weightLength : Nat := 2 * Word.width UInt64

def classLimitsLength : Nat := weightLength + 3 * (1 + weightLength)

/-- Those of an error of a call, of a module's error and of a phase, of a weight, of the limits
on weight and on length, of an account and of an origin. -/
def formLengths : List Nat :=
  [1 + 1 + 4, 1 + 4, weightLength, 1 + Word.width UInt32, 2 * weightLength + 3 * classLimitsLength,
   3 * Word.width UInt32, 32, 1 + Word.width UInt64]

/-- The lengths of some keys, from a byte to an account. -/
def keyLengths : List Nat := [1, 4, 8, 16, 32, 12, 9]

def hashLengths : List (String × Json) :=
  Named.names.map fun entry : String × KeyHash =>
    (entry.1, report (keyLengths.map entry.2.longest))

def registry : Json := .list (Testnet.Call.registry.map fun entry =>
  .list [report entry.1.1, report entry.1.2, report entry.2.1, report entry.2.2])

def all : List (String × Json) :=
  [("accounts", report ([Testnet.Person.alice, .bob, .charlie].map Testnet.Person.account)),
   ("block_execution", report blockExecutionWeight),
   ("classes", report [DispatchClass.all, DispatchClass.nonMandatory]),
   ("extrinsic_base", report extrinsicBaseWeight),
   ("immortal", report Era.immortal),
   ("max_encoded", report formLengths),
   ("max_len", .object hashLengths),
   ("registry", registry),
   ("rocksdb", report StoreWeight.disk),
   ("runtime_version", report Testnet.version),
   ("transaction_level_key", report Layer.levelKey),
   ("unit_info", report DispatchInfo.none),
   ("weight", report [Weight.top, Weight.top, Weight.zero])]

end StateTransition.Constants
