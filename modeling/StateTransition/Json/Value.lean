import StateTransition.Bytes

set_option autoImplicit false

/-! JSON documents and how they are written: on one line, or over many lines with two
blanks per level. -/

namespace StateTransition

inductive Json where
  | null
  | bool (value : Bool)
  /-- A number written with digits alone. -/
  | natural (value : Nat)
  /-- A number with a sign, a fraction or an exponent. -/
  | otherNumber
  | text (value : String)
  | list (items : List Json)
  | object (fields : List (String × Json))
  /-- A text, or an object with a name, in which half a character is missing. It can be passed
  over but not read. -/
  | broken

namespace Json

instance : Inhabited Json where
  default := null

def field? (document : Json) (name : String) : Option Json :=
  match document with
  | object fields => fields.lookup name
  | _ => none

/-- The field of that name; a field that is missing is null. -/
def field (document : Json) (name : String) : Json := (document.field? name).getD null

def isNull : Json → Bool
  | null => true
  | _ => false

def single (name : String) (value : Json) : Json := object [(name, value)]

mutual

def depth : Json → Nat
  | list items => depthOfItems items + 1
  | object fields => depthOfFields fields + 1
  | _ => 1

def depthOfItems : List Json → Nat
  | [] => 0
  | first :: rest => max (depth first) (depthOfItems rest)

def depthOfFields : List (String × Json) → Nat
  | [] => 0
  | (_, value) :: rest => max (depth value) (depthOfFields rest)

end

/-! ### Text -/

/-- The letter of a control character that has a short escape. -/
def shortEscape? : Char → Option Char
  | '"' => some '"'
  | '\\' => some '\\'
  | '\x08' => some 'b'
  | '\x0c' => some 'f'
  | '\n' => some 'n'
  | '\r' => some 'r'
  | '\t' => some 't'
  | _ => none

def escape (char : Char) : List Char :=
  match shortEscape? char with
  | some letter => ['\\', letter]
  | none =>
      if char.toNat < 32 then
        ['\\', 'u', '0', '0', Bytes.hexDigit (char.toNat / 16), Bytes.hexDigit (char.toNat % 16)]
      else [char]

def quote (text : String) : String :=
  String.ofList ('"' :: text.toList.flatMap escape ++ ['"'])

mutual

def compress : Json → String
  | null => "null"
  | bool value => if value then "true" else "false"
  | natural value => toString value
  | otherNumber => "0.0"
  | text value => quote value
  | broken => "null"
  | list items => "[" ++ ",".intercalate (compressItems items) ++ "]"
  | object fields => "\x7b" ++ ",".intercalate (compressFields fields) ++ "\x7d"

def compressItems : List Json → List String
  | [] => []
  | first :: rest => compress first :: compressItems rest

def compressFields : List (String × Json) → List String
  | [] => []
  | (name, value) :: rest => (quote name ++ ":" ++ compress value) :: compressFields rest

end

/-- Lines between an opening and a closing mark, one blank pair deeper than the marks. -/
def indented (level : Nat) (opening closing : String) (lines : List String) : String :=
  let margin (level : Nat) := "\n" ++ String.ofList (List.replicate (2 * level) ' ')
  match lines with
  | [] => opening ++ closing
  | _ :: _ =>
      opening ++ ",".intercalate (lines.map (margin (level + 1) ++ ·)) ++ margin level ++ closing

mutual

def layOut (level : Nat) : Json → String
  | list items => indented level "[" "]" (layOutItems (level + 1) items)
  | object fields => indented level "\x7b" "\x7d" (layOutFields (level + 1) fields)
  | null => "null"
  | bool value => if value then "true" else "false"
  | natural value => toString value
  | otherNumber => "0.0"
  | text value => quote value
  | broken => "null"

def layOutItems (level : Nat) : List Json → List String
  | [] => []
  | first :: rest => layOut level first :: layOutItems level rest

def layOutFields (level : Nat) : List (String × Json) → List String
  | [] => []
  | (name, value) :: rest =>
      (quote name ++ ": " ++ layOut level value) :: layOutFields level rest

end

def pretty (document : Json) : String := layOut 0 document

end Json

end StateTransition
