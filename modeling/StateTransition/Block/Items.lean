import StateTransition.Account.Info
import StateTransition.Block.Header
import StateTransition.Dispatch.Class
import StateTransition.Event.Basic
import StateTransition.Store.Item
import StateTransition.Version

set_option autoImplicit false

/-! Where a chain keeps what it knows of its accounts, its blocks and the block being run. -/

namespace StateTransition.Item

def systemArea (item : String) : Bytes := areaOf "System" item

def codeKey : Bytes := Bytes.ofText ":code"

def extrinsicIndex : Slot UInt32 (Option UInt32) :=
  .optional (Bytes.ofText ":extrinsic_index") .word

def extrinsicCount : Slot UInt32 (Option UInt32) := .optional (systemArea "ExtrinsicCount") .word

def extrinsicData : Table UInt32 Bytes Bytes :=
  .valued (systemArea "ExtrinsicData") (.keeping .twox64) .word .bytes []

def blockWeight : Slot ConsumedWeight ConsumedWeight :=
  .valued (systemArea "BlockWeight") ConsumedWeight.codec .zero

def extrinsicsLength : Slot UInt32 (Option UInt32) :=
  .optional (systemArea "AllExtrinsicsLen") .word

def parentHash : Slot Hash Hash := .valued (systemArea "ParentHash") (.octets 32) (.zero 32)

def digest : Slot Digest Digest := .valued (systemArea "Digest") Digest.codec []

def eventCount : Slot UInt32 UInt32 := .valued (systemArea "EventCount") .word 0

def lastUpgrade : Slot LastUpgrade (Option LastUpgrade) :=
  .optional (systemArea "LastRuntimeUpgrade") LastUpgrade.codec

def phase : Slot Phase (Option Phase) := .optional (systemArea "ExecutionPhase") Phase.codec

/-- The hash of the code that may take the place of the chain's. -/
def authorizedUpgrade : Slot Hash (Option Hash) :=
  .optional (systemArea "AuthorizedUpgrade") (.octets 32)

section

variable {Number : Type} [Word Number]

def number : Slot Number Number := .valued (systemArea "Number") .word Word.zero

def blockHash : Table Number Hash Hash :=
  .valued (systemArea "BlockHash") (.keeping .twox64) .word (.octets 32) (.zero 32)

def account {Account : Type} (account : Codec Account) :
    Table Account (AccountInfo Number) (AccountInfo Number) :=
  .valued (systemArea "Account") (.keeping .blake128) account AccountInfo.codec .blank

end

def eventsKey : Bytes := systemArea "Events"

def events {Account : Type} [DecidableEq Account] (parts : PartNumbers)
    (account : Codec Account) :
    Slot (List (EventRecord Account)) (List (EventRecord Account)) :=
  .valued eventsKey (.list (EventRecord.codec parts account)) []

end StateTransition.Item
