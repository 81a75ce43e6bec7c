import StateTransition.Action
import StateTransition.Report.Basic

set_option autoImplicit false

/-! Scripts: documents that ask for things to be done, one step after the other. A step reads
what it asks for by name, works on a session and on a world, and answers with a document. -/

namespace StateTransition

/-- `σ` is what the steps of a script leave for each other beside the world. -/
abbrev Script (σ : Type) := ReaderT Json (StateT σ Action)

namespace Script

abbrev Choices (σ : Type) := List (String × Script σ Json)

variable {σ α ε : Type}

/-! ### What is asked for -/

def badRequest (name : String) : Script σ α := throw (.stated ("bad request: " ++ name))

def sure (name : String) : Option α → Script σ α
  | some value => return value
  | none => badRequest name

def arg [Request α] (name : String) : Script σ α := do sure name ((← read).ask? name)

def argOr [Request α] (name : String) (missing : α) : Script σ α := do
  sure name ((← read).askOr? name missing)

def field (name : String) : Script σ Json := return (← read).field name

def whole [Request α] : Script σ α := do sure "request" (request? (← read))

def choose (name : String) (choices : Choices σ) : Script σ Json := do
  match choices.lookup (← arg name) with
  | some step => step
  | none => badRequest name

/-! ### What is answered -/

def obj (fields : List (String × Json)) : Script σ Json := return .object fields

def done : Json := .text "ok"

def look [Report α] (view : Store → α) : Script σ Json := do return report (← Action.look view)

def change (step : Store → Store) : Script σ Json := do
  Action.change step
  return done

def update [Report α] (step : Store → α × Store) : Script σ Json := do
  return report (← Action.update step)

def tell [Report α] (action : Action α) : Script σ Json := do return report (← action)

def perform (action : Action Unit) : Script σ Json := do
  action
  return done

def attempt [Report ε] [Report α] (run : Attempt ε α) : Script σ Json := tell run.run

def orThrow : Except Trap α → Script σ α
  | .ok value => return value
  | .error cause => throw cause

/-! ### Running -/

/-- The action that a script amounts to. What it leaves in the session is lost. -/
def asAction (script : Script σ α) : Script σ (Action α) := do
  let request ← read
  let session ← get
  return do return (← (script request).run session).1

def sequence (step : Script σ Json) : List Json → σ → World → List Json
  | [], _, _ => []
  | request :: rest, session, world =>
      match (step request).run session world with
      | .ok (answer, session) world => answer :: sequence step rest session world
      | .error cause _ => [.single "panic" (.text cause.message)]

end Script

end StateTransition
