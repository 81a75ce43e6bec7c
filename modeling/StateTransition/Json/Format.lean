import StateTransition.Json.Value
import StateTransition.Word

set_option autoImplicit false

/-! Formats of JSON documents: how values of a type are written and which documents are read
as one. A reader takes a record by the names of its fields or by their order. -/

namespace StateTransition

structure JsonFormat (α : Type) where
  write : α → Json
  read? : Json → Option α

namespace Json

def allDifferent : List (String × Json) → Bool
  | [] => true
  | (name, _) :: others => others.all (·.1 != name) && allDifferent others

/-- The fields of a record. A list gives them in order, and may end early where `lenient`;
where `closed`, no other names are allowed. -/
def record? (names : List String) (closed lenient : Bool) : Json → Option (List (String × Json))
  | object fields =>
      let known := fields.filter fun field => names.contains field.1
      if allDifferent known && (!closed || known.length == fields.length) then some known
      else none
  | list items =>
      if items.length == names.length || (lenient && items.length < names.length) then
        some (names.zip items)
      else none
  | _ => none

/-- What is chosen among alternatives, with what it carries; a bare name carries null. -/
def chosen? : Json → Option (String × Option Json)
  | text name => some (name, none)
  | object [(name, value)] => some (name, some value)
  | _ => none

def chosenPlain? (document : Json) : Option String :=
  match document.chosen? with
  | some (name, none) => some name
  | some (name, some .null) => some name
  | _ => none

end Json

namespace JsonFormat

variable {α β : Type}

def field? (format : JsonFormat α) (fields : List (String × Json)) (name : String) : Option α :=
  (fields.lookup name).bind format.read?

def number [Word α] : JsonFormat α where
  write value := .natural (Word.toNat value)
  read?
    | .natural value => Word.ofNat? value
    | _ => none

def text : JsonFormat String where
  write := .text
  read?
    | .text value => some value
    | _ => none

def named (name : α → String) (ofName? : String → Option α) : JsonFormat α where
  write value := .text (name value)
  read? document := (text.read? document).bind ofName?

def list (item : JsonFormat α) : JsonFormat (List α) where
  write values := .list (values.map item.write)
  read?
    | .list items => items.mapM item.read?
    | _ => none

def pair (left : JsonFormat α) (right : JsonFormat β) : JsonFormat (α × β) where
  write value := .list [left.write value.1, right.write value.2]
  read?
    | .list [first, second] => do return (← left.read? first, ← right.read? second)
    | _ => none

def option (format : JsonFormat α) : JsonFormat (Option α) where
  write
    | none => .null
    | some value => format.write value
  read?
    | .null => some none
    | document => (format.read? document).map some

end JsonFormat

end StateTransition
