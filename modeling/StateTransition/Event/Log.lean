import StateTransition.Block.Items
import StateTransition.Chain.Rules

set_option autoImplicit false

/-! The log of the events of a block. The first block of a chain has none. -/

namespace StateTransition

variable {Account Number : Type} [DecidableEq Account] [Word Number]

namespace Rules

variable (rules : Rules Account Number)

def eventSlot : Slot (List (EventRecord Account)) (List (EventRecord Account)) :=
  Item.events rules.parts rules.account

def events (store : Store) : List (EventRecord Account) := rules.eventSlot.get store

/-- Adds an event to the log, unless the log is as long as it can be. -/
def recordEvent (topics : List Hash) (event : Event Account) (store : Store) : Store :=
  if Word.isZero ((Item.number : Slot Number Number).get store) then store
  else
    match Word.checkedAdd? (Item.eventCount.get store) 1 with
    | none => store
    | some count =>
        let phase := (Item.phase.get store).getD .beginning
        rules.eventSlot.append (EventRecord.codec rules.parts rules.account)
          { phase, event, topics } (Item.eventCount.put count store)

def deposit (event : Event Account) : Action Unit := Action.change (rules.recordEvent [] event)

end Rules

def clearEvents (store : Store) : Store :=
  Item.eventCount.erase (store.erase Item.eventsKey)

end StateTransition
