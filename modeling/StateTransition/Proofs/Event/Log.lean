import StateTransition.Proofs.Account.Frame
import StateTransition.Proofs.Store.Append
import StateTransition.Proofs.Store.Name

set_option autoImplicit false

/-! The log of events grows at its end. An event is added without reading those before it: its length
is counted up and the event is written behind the others. -/

namespace StateTransition

variable {Account Number : Type} [DecidableEq Account] [Word Number]

namespace Rules

variable {rules : Rules Account Number}

def eventCodec (rules : Rules Account Number) : Codec (EventRecord Account) :=
  EventRecord.codec rules.parts rules.account

/-- An event that concerns nothing in particular, as it is recorded. -/
def recordOf (event : Event Account) (store : Store) : EventRecord Account where
  phase := (Item.phase.get store).getD .beginning
  event
  topics := []

theorem holdsLog_names : HoldsLog (Item.Under [.events, .eventCount]) where
  events := Item.under_head .events (by decide)
  count := Item.under_head .eventCount (by decide)

theorem recorded_local (event : Event Account) :
    Store.Local (Item.Under [.events, .eventCount]) (rules.recordEvent [] event) :=
  recordEvent_local holdsLog_names [] event

theorem recordEvent_eq {event : Event Account} {store : Store}
    (later : Word.isZero ((Item.number : Slot Number Number).get store) = false)
    (room : (Item.eventCount.get store).toNat + 1 < 4294967296) :
    rules.recordEvent [] event store =
      rules.eventSlot.append rules.eventCodec (recordOf event store)
        (Item.eventCount.put (Item.eventCount.get store + 1) store) := by
  unfold recordEvent
  rw [later, if_neg (by decide), Word.checkedAdd?_one room]
  rfl

end Rules

end StateTransition
