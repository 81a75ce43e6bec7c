import StateTransition.Action

set_option autoImplicit false

/-! Bodies run in layers of their own. How deep they are nested is kept in the store itself,
outside the layer that is opened, and has a limit. However a body ends, as many layers are
open afterwards as before. -/

namespace StateTransition.Layer

def levelKey : Bytes := Bytes.ofText ":transaction_level:"

def limit : UInt32 := 255

def levelSlot : Slot UInt32 UInt32 := .valued levelKey .word 0

def level (store : Store) : UInt32 := levelSlot.get store

/-- Level zero is not stored. -/
def setLevel (value : UInt32) (store : Store) : Store :=
  if value = 0 then levelSlot.erase store else levelSlot.put value store

/-- Raises the level and opens a layer, unless the limit is reached. -/
def enter? (store : Store) : Option Store :=
  if limit ≤ level store then none
  else some (setLevel (level store + 1) store).openLayer

/-- Lowers the level; it never goes below zero. -/
def lower (store : Store) : Store :=
  if level store = 0 then store else setLevel (level store - 1) store

/-- Keeps or throws away the innermost layer and lowers the level below it. -/
def leave (keep : Bool) (store : Store) : Store :=
  let closed := if keep then store.keepLayer? else store.discardLayer?
  lower (closed.getD store)

variable {α ε : Type}

/-- Runs a body in a layer that is kept if its answer says so. At the limit the body does
not run and there is no answer. -/
def within (keep : α → Bool) (body : Action α) : Action (Option α) := do
  match enter? (← Action.look id) with
  | none => return none
  | some entered =>
      Action.change fun _ => entered
      let answer ← Action.cleaning body (leave false)
      Action.change (leave (keep answer))
      return some answer

/-- Runs a body that says itself whether its layer is kept. -/
def deciding (refuse : DispatchError → ε) (body : Action (Bool × Except ε α)) :
    Action (Except ε α) := do
  match ← within (·.1) body with
  | some (_, answer) => return answer
  | none => return .error (refuse (.layer .limitReached))

/-- Runs a body in a layer that is kept if it succeeds. -/
def keepingSuccess (refuse : DispatchError → ε) (body : Action (Except ε α)) :
    Action (Except ε α) := do
  match ← within Except.isOk body with
  | some answer => return answer
  | none => return .error (refuse (.layer .limitReached))

def hypothetically (body : Action α) : Action α := do
  match ← within (fun _ => false) body with
  | some answer => return answer
  | none => Action.trap .layerLimit

def inside (store : Store) : Bool := 0 < level store

def require (store : Store) : Except DispatchError Unit :=
  if inside store then .ok () else .error (.layer .noLayer)

end StateTransition.Layer
