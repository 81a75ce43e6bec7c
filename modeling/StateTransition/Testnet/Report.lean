import StateTransition.Report.Call
import StateTransition.Report.Overview
import StateTransition.Testnet.Entry
import StateTransition.Testnet.Keyring

set_option autoImplicit false

/-! Reports of what is particular to the test network, and requests for it. -/

namespace StateTransition.Testnet

instance : Named Person where
  names := Person.all.map fun person => (person.name, person)

/-- Who a person is, and what their keys are derived from. -/
def Person.overview (person : Person) : Json := .object
  [("name", report person), ("seed", report person.phrase),
   ("account", report person.account.display), ("public", report person.account)]

/-- An account is asked for by the name of a person, or by its digits. -/
def account? (document : Json) : Option AccountId :=
  ((request? document).map Person.account).or (request? document)

instance : Request Place where
  request? := Address.request? account? fun _ => some ()

def origin? (document : Json) : Option (Origin AccountId) :=
  match document.field? "Signed" with
  | some who => (account? who).map .signed
  | none => request? document

instance : Report Call where
  report
    | .system call => report call
    | .timestamp (.set now) => .single "Timestamp.set" (report now)
    | .balances call => report call

/-- A call is asked for by name, or by its encoded form. -/
instance : Request Call where
  request?
    | .object [("hex", value)] => do (Call.codec.decodeAll (← request? value)).toOption
    | .object [("Timestamp.set", value)] => (request? value).map fun now => .timestamp (.set now)
    | .object [(name, value)] =>
        ((SystemCall.request? name value).map .system).or
          ((BalanceCall.request? request? name value).map .balances)
    | _ => none

/-- A call with its numbers, its names, what is declared of it, and its encoded form. -/
def Call.overview (call : Call) : Json := .object
  [("index", report call.numbers), ("name", report (Call.nameOf? call.numbers)),
   ("info", report call.info), ("encoded", report (Call.codec.encode call))]

/-! ### Extrinsics -/

instance : Request (Terms Number) where
  request? document := do
    return { era := ← document.askOr? "era" (.around 256 0)
             nonce := ← document.askOr? "nonce" 0
             tip := ← document.askOr? "tip" 0 }

/-- The bytes with one of their bits, counted from the lowest of the first byte, turned. -/
def flipped (bytes : Bytes) (bit : Nat) : Bytes :=
  bytes.modify (bit / 8) (· ^^^ 1 <<< UInt8.ofNat (bit % 8))

/-- An extrinsic with some of its parts replaced after it was signed. -/
def Extrinsic.changed? (extrinsic : Extrinsic) (document : Json) : Option Extrinsic := do
  let signature ← extrinsic.signature
  let flip : Option Nat ← document.ask? "flip"
  let proof := (flip.map (flipped signature.proof.bytes)).getD signature.proof.bytes
  let tip ← document.askOr? "set_tip" signature.terms.tip
  let signature :=
    { place := ← document.askOr? "address" signature.place
      proof := .fit 64 proof
      terms := { signature.terms with tip } }
  return ⟨some signature, ← document.askOr? "set_call" extrinsic.call⟩

def inherentBytes? (document : Json) : Option Bytes := do
  match ← document.ask? "raw" with
  | some encoded => return encoded
  | none =>
      let now : Option Moment ← document.ask? "now"
      return InherentData.codec.encode ((now.map Timestamp.knowledge).getD .empty)

/-! ### The state -/

/-- The output of an entry point, or why there is none. -/
instance : Report (Except EntryError Bytes) where
  report
    | .ok output => .single "ok" (report output)
    | .error (.unknownMethod name) =>
        .failure "UnknownMethod" (EntryError.unknownMethod name).message?
    | .error (.badInput cause) => .failure "BadInput" cause.message?

/-- Where a block is, what time it has, and what fees depend on. -/
def overview (store : Store) : Json := .object
  (("depth", report store.depth) :: ("now", report (Timestamp.now.get store)) ::
   ("did_update", report (Timestamp.isSet.get store)) ::
   ("issuance", report (Item.totalIssuance.get store)) ::
   ("multiplier", report (Item.nextMultiplier.get store)) ::
   Environment.overview Number store)

end StateTransition.Testnet
