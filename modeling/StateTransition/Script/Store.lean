import StateTransition.Report.Dispatch
import StateTransition.Script.Basic
import StateTransition.Store.Layer

set_option autoImplicit false

/-! Scripts on a store: its keys, typed views of it, and its layers. -/

namespace StateTransition.Script

variable {σ α β κ : Type}

/-- Puts a new value in the place of an old one, or fails with the old one. -/
def swap (new old : α) (succeed : Bool) : Except α (α × α) :=
  if succeed then .ok (old, new) else .error old

def slotSteps [Report α] [Request α] [Report β] [Request β] (slot : Slot α β) : Choices σ :=
  let put : Script σ Json := do change (slot.put (← arg "val"))
  [("key", return report slot.key), ("exists", look slot.exists?),
   ("contains", look slot.exists?), ("get", look slot.get), ("take", update slot.take),
   ("try_get", do
      let value ← Action.look slot.stored?
      return report (value.elim (.error ()) .ok : Except Unit α)),
   ("put", put), ("insert", put), ("set", do change (slot.set (← arg "val"))),
   ("kill", change slot.erase), ("remove", change slot.erase),
   ("mutate", do
      let new ← arg "val"
      update (slot.modify (·, new))),
   ("try_mutate", do
      let new ← arg "val"
      let ok ← argOr "ok" false
      update (slot.tryModify (swap new · ok))),
   ("mutate_exists", do
      let new ← arg "val"
      update (slot.modifyStored (·, new))),
   ("try_mutate_exists", do
      let new ← arg "val"
      let ok ← argOr "ok" false
      update (slot.tryModifyStored (swap new · ok)))]

/-- What can be done with a slot that holds a sequence. -/
def sequenceSteps (slot : Slot (List UInt32) (List UInt32)) : Choices σ :=
  ("append", do change (slot.append .word (← arg "val"))) ::
    ("decode_len", look slot.length?) :: slotSteps slot

/-- A step on a table, or on the row of a key. -/
def tableStep [Report κ] [Request κ] [Report α] (table : Table κ α β)
    (row : Slot α β → Choices σ) : Script σ Json := do
  match ← arg "fn" with
  | "prefix" => return report table.area
  | "clear" => update (table.eraseAll (← arg "limit"))
  | "iter" => look table.entries
  | "iter_keys" => look table.keys
  | _ => choose "fn" (row (table.row (← arg "key")))

def testArea (item : String) : Bytes := areaOf "Test" item

/-- Slots to try: with and without a value for what is not stored. -/
def values : Choices σ :=
  [("opt", choose "fn" (slotSteps (.optional (testArea "Opt") .word : Slot UInt32 _))),
   ("val", choose "fn" (slotSteps (.valued (testArea "Val") .word 0 : Slot UInt64 _))),
   ("def", choose "fn" (slotSteps (.valued (testArea "Def") .word 42 : Slot UInt32 _))),
   ("vec", choose "fn" (sequenceSteps (.valued (testArea "Vec") (.list .word) [])))]

def tables : Choices σ :=
  let hashed (hash : KeyHash) : Script σ Json := tableStep
    (.optional (testArea "MapHash") hash .word .word : Table UInt32 UInt32 _) slotSteps
  let blake : KeyHash := .keeping .blake128
  [("twox", tableStep (.optional (testArea "MapTwox") (.keeping .twox64) .word .word :
      Table UInt32 UInt64 _) slotSteps),
   ("blake", tableStep (.valued (testArea "MapBlake") blake .bytes .word 0 :
      Table Bytes UInt32 _) slotSteps),
   ("identity", tableStep (.valued (testArea "MapId") (.keeping .identity) .word .word 42 :
      Table UInt16 UInt32 _) slotSteps),
   ("vec", tableStep (.valued (testArea "MapVec") blake .word (.list .word) [] :
      Table UInt32 (List UInt32) _) sequenceSteps),
   ("b128", hashed .blake128), ("b256", hashed .blake256), ("t128", hashed .twox128),
   ("t256", hashed .twox256)]

/-- A step on a typed value at a key of its own. -/
def bareStep [Report α] [Request α] (codec : Codec α) (missing : α) : Script σ Json := do
  let key ← arg "key"
  let stored ← Action.look (·.read? codec key)
  let other : Script σ Json := do return report (stored.getD (← arg "val"))
  choose "fn"
    [("get", return report stored), ("get_or_default", return report (stored.getD missing)),
     ("get_or", other), ("get_or_else", other),
     ("put", do
        let value ← arg "val"
        change (·.write codec key value)),
     ("take", update (·.take codec key)),
     ("take_or_default", do
        return report ((← Action.update (·.take codec key)).getD missing))]

/-- Nested layers, numbered from the outside. The innermost writes their number; the one of
number `failing` fails after all. -/
def nest (failing : Option Nat) (key : Bytes) (number : Nat) :
    (remaining : Nat) → Action (Except DispatchError Nat)
  | 0 => do
      Action.change (·.write Codec.word key (UInt32.ofNat number))
      return .ok number
  | remaining + 1 =>
      Layer.keepingSuccess id do
        let answer ← nest failing key (number + 1) remaining
        return if failing = some number then .error (.other "stop") else answer

/-- The end of a body in a layer. There is none if the layer could not be opened. -/
def ended (error : Option DispatchError) (inner : Option (List Json)) : Script σ Json :=
  let result : Except DispatchError Nat :=
    match inner, error with
    | none, _ => .error (.layer .limitReached)
    | some _, some error => .error error
    | some _, none => .ok 7
  obj [("result", report result), ("body", (inner.map .list).getD .null)]

def relayer (step : Store → Option Store) (finish : Bool → Json) : Script σ Json := do
  let changed := step (← Action.look id)
  Action.change fun store => changed.getD store
  return finish changed.isSome

def okOrError (ok : Bool) : Json := report (if ok then .ok () else .error () : Except Unit Unit)

/-- A step on a store; `inner` does the steps of its body. -/
def storeStep (inner : Script σ Json) : Script σ Json :=
  let key : Script σ Bytes := arg "key"
  let put : Script σ Json := do
    let value ← arg "val"
    let key ← key
    change (·.put key value)
  let get : Script σ Json := do
    let key ← key
    look (·.get? key)
  let erase : Script σ Json := do
    let key ← key
    change (·.erase key)
  let eraseUnder : Script σ Json := do
    let head ← key
    let limit ← arg "limit"
    update (·.eraseUnder head limit)
  let body : Script σ (Action (List Json)) := asAction do
    (← arg "body" : List Json).mapM fun request => do
      let answer ← withReader (fun _ => request) inner
      return .object [("r", answer), ("root", ← look Store.root)]
  choose "do"
    [("insert", do
        let value ← arg "val"
        let key ← key
        change (·.putSettled key value)),
     ("commit_all", relayer Store.settle? fun ok =>
        if ok then done
        else .single "error" (.text "Cannot commit with open storage transactions")),
     ("snapshot", look fun store => store.visible.entries), ("reload", change Store.flatten),
     ("set", put), ("put_raw", put), ("get", get), ("get_raw", get), ("clear", erase),
     ("kill", erase), ("clear_prefix", eraseUnder), ("kill_prefix", eraseUnder),
     ("exists", do
        let key ← key
        look fun store => [store.contains key, store.contains key]),
     ("next", do
        let key ← key
        look (·.next? key)),
     ("keys", do
        let head ← key
        look (·.keysUnder head)),
     ("start", change Store.openLayer), ("rollback", relayer Store.discardLayer? okOrError),
     ("commit", relayer Store.keepLayer? okOrError),
     ("unhashed", choose "as"
        [("u16", bareStep (.word : Codec UInt16) 0), ("u32", bareStep (.word : Codec UInt32) 0),
         ("u64", bareStep (.word : Codec UInt64) 0), ("bytes", bareStep Codec.bytes []),
         ("vec", bareStep (.list .word : Codec (List UInt32)) [])]),
     ("value", choose "item" values), ("map", choose "item" tables),
     ("is_transactional", look Layer.inside), ("require_transactional", look Layer.require),
     ("transaction", do
        let keep : Bool ← arg "commit"
        ended (← arg "err") (← Layer.within (fun _ => keep) (← body))),
     ("layer", do
        let error ← arg "err"
        ended error (← Layer.within (fun _ => error.isNone) (← body))),
     ("nest", do
        let count ← arg "n"
        return report (← nest (← arg "fail_at") (← key) 0 count)),
     ("hypothetically", do obj [("body", .list (← Layer.hypothetically (← body)))]),
     ("guard", do
        let first : Option String ← arg "message"
        let text ← argOr "set_message" (first.getD Action.changeDetected)
        let body ← body
        let answer : Action Json := Action.unchanging text do
          let inner ← body
          let empty ← Action.look (·.contains [])
          return .object [("body", .list inner), ("empty_key", report empty)]
        answer),
     ("panic", do throw (.stated (← arg "message"))),
     ("catch", do
        let body ← body
        let caught : Action Json := tryCatch
          (do return .object [("caught", .null), ("body", .list (← body))])
          fun cause => return .object [("caught", .text cause.message), ("body", .null)]
        caught)]

def storeSteps : (bound : Nat) → Script σ Json
  | 0 => badRequest "body"
  | bound + 1 => storeStep (storeSteps bound)

end StateTransition.Script
