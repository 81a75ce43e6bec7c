import StateTransition.Store.Item
import StateTransition.Trap

set_option autoImplicit false

/-! Steps of a run. A query looks at a store; an action works on it as well, and may leave
notes for the host. Both give an answer or end in a trap. A trap does not undo what was done
before it. -/

namespace StateTransition

abbrev Query := ReaderT Store (Except Trap)

namespace Query

variable {α : Type}

def look (view : Store → α) : Query α := fun store => .ok (view store)

def trap (cause : Trap) : Query α := fun _ => .error cause

end Query

/-- What a run works on. Notes are not part of the state of the chain: throwing a layer
away keeps them. -/
structure World where
  store : Store
  notes : List String

abbrev Action := EStateM Trap World

namespace Action

variable {α β ρ : Type}

def look (view : Store → α) : Action α := do return view (← get).store

def change (step : Store → Store) : Action Unit :=
  modify fun world => { world with store := step world.store }

def update (step : Store → α × Store) : Action α :=
  modifyGet fun world =>
    let (answer, store) := step world.store
    (answer, { world with store })

def note (text : String) : Action Unit :=
  modify fun world => { world with notes := world.notes ++ [text] }

def takeNotes : Action (List String) :=
  modifyGet fun world => (world.notes, { world with notes := [] })

def trap (cause : Trap) : Action α := throw cause

/-- Runs `body`; if it traps, changes the store before passing the trap on. -/
def cleaning (body : Action α) (cleanup : Store → Store) : Action α :=
  tryCatch body fun cause => do
    change cleanup
    throw cause

def ask (query : Query α) : Action α := do
  match query (← get).store with
  | .ok answer => return answer
  | .error cause => throw cause

/-- Runs `body` and checks that it has left the state as it was. -/
def unchanging (text : String) (body : Action α) : Action α := do
  let before ← look Store.root
  let answer ← body
  let after ← look Store.root
  if before = after then return answer else trap (.stateChanged text)

/-- What is said of a changed state if nothing else is agreed. -/
def changeDetected : String := "`StorageNoopGuard` detected an attempted storage change."

end Action

/-- An action that may be refused. A refusal does not undo what was done before it. -/
abbrev Attempt (ε : Type) := ExceptT ε Action

namespace Attempt

variable {α ε : Type}

def demand (condition : Bool) (cause : ε) : Attempt ε Unit :=
  if condition then return () else throw cause

def look (view : Store → α) : Attempt ε α := ExceptT.lift (Action.look view)

/-- Makes a query on the store, whose answer may be a refusal. -/
def ask (query : Query (Except ε α)) : Attempt ε α := ExceptT.mk (Action.ask query)

def update (step : Store → Except ε α × Store) : Attempt ε α :=
  ExceptT.mk (Action.update step)

end Attempt

end StateTransition
