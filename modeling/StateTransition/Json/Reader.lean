import StateTransition.Json.Value

set_option autoImplicit false

/-! Reading JSON documents. A reader takes what it reads from the front of a list of
characters and gives it with the characters after it. The depth of nesting is bounded by a
number that starts above the length of the text. -/

namespace StateTransition.Json

def isBlank (char : Char) : Bool := char == ' ' || char == '\n' || char == '\t' || char == '\r'

def skipBlanks (chars : List Char) : List Char := chars.dropWhile isBlank

def expect (expected : List Char) (chars : List Char) : Option (List Char) :=
  match expected, chars with
  | [], rest => some rest
  | _ :: _, [] => none
  | first :: others, char :: rest => if first = char then expect others rest else none

/-! ### Numbers -/

def decimalValue (digits : List Char) : Nat :=
  digits.foldl (fun value digit => 10 * value + (digit.toNat - 48)) 0

def readDigits (chars : List Char) : Option (List Char × List Char) :=
  match chars.takeWhile Char.isDigit with
  | [] => none
  | digits => some (digits, chars.dropWhile Char.isDigit)

/-- The whole part of a number: it does not begin with a zero unless it is zero. -/
def readWhole : List Char → Option (Nat × List Char)
  | '0' :: rest => some (0, rest)
  | chars => (readDigits chars).map fun (digits, rest) => (decimalValue digits, rest)

def readFraction : List Char → Option (Bool × List Char)
  | '.' :: rest => (readDigits rest).map fun (_, rest) => (true, rest)
  | chars => some (false, chars)

def readExponent : List Char → Option (Bool × List Char)
  | mark :: rest =>
      if mark = 'e' ∨ mark = 'E' then
        let unsigned :=
          match rest with
          | '+' :: digits => digits
          | '-' :: digits => digits
          | digits => digits
        (readDigits unsigned).map fun (_, rest) => (true, rest)
      else some (false, mark :: rest)
  | [] => some (false, [])

def readNumber (chars : List Char) : Option (Json × List Char) := do
  let (negative, chars) :=
    match chars with
    | '-' :: rest => (true, rest)
    | _ => (false, chars)
  let (whole, chars) ← readWhole chars
  let (fraction, chars) ← readFraction chars
  let (exponent, chars) ← readExponent chars
  return (if negative || fraction || exponent then otherNumber else natural whole, chars)

/-! ### Text -/

def readUnit : List Char → Option (Nat × List Char)
  | a :: b :: c :: d :: rest => do
      let a ← Bytes.hexValue? a
      let b ← Bytes.hexValue? b
      let c ← Bytes.hexValue? c
      let d ← Bytes.hexValue? d
      return (4096 * a + 256 * b + 16 * c + d, rest)
  | _ => none

/-- A character by its number. One beyond 2^16 takes two units, of which the first alone, or
the second alone, is no character. -/
def readNumbered (chars : List Char) : Option (Option Char × List Char) := do
  let (unit, rest) ← readUnit chars
  if 0xd800 ≤ unit ∧ unit ≤ 0xdbff then
    match (expect ['\\', 'u'] rest).bind readUnit with
    | some (low, after) =>
        if 0xdc00 ≤ low ∧ low ≤ 0xdfff then
          return (some (Char.ofNat (0x10000 + 1024 * (unit - 0xd800) + (low - 0xdc00))), after)
        else return (none, rest)
    | none => return (none, rest)
  else if 0xdc00 ≤ unit ∧ unit ≤ 0xdfff then return (none, rest)
  else return (some (Char.ofNat unit), rest)

def readEscape : List Char → Option (Option Char × List Char)
  | '"' :: rest => some (some '"', rest)
  | '\\' :: rest => some (some '\\', rest)
  | '/' :: rest => some (some '/', rest)
  | 'b' :: rest => some (some '\x08', rest)
  | 'f' :: rest => some (some '\x0c', rest)
  | 'n' :: rest => some (some '\n', rest)
  | 'r' :: rest => some (some '\r', rest)
  | 't' :: rest => some (some '\t', rest)
  | 'u' :: rest => readNumbered rest
  | _ => none

/-- The characters up to the closing quote, at most `bound` of them. Half a character is
none. -/
def readChars : (bound : Nat) → List Char → Option (List (Option Char) × List Char)
  | 0, _ => none
  | _ + 1, [] => none
  | _ + 1, '"' :: rest => some ([], rest)
  | bound + 1, '\\' :: rest => do
      let (char, rest) ← readEscape rest
      let (others, rest) ← readChars bound rest
      return (char :: others, rest)
  | bound + 1, char :: rest =>
      if char.toNat < 32 then none
      else do
        let (others, rest) ← readChars bound rest
        return (some char :: others, rest)

/-- A text behind its opening quote; it is none if half a character is missing in it. -/
def readText (chars : List Char) : Option (Option String × List Char) :=
  (readChars (chars.length + 1) chars).map fun (chars, rest) =>
    ((chars.mapM id).map String.ofList, rest)

/-! ### Documents -/

/-- The object with these fields, all of whose names have to be whole. -/
def ofFields (fields : List (Option String × Json)) : Json :=
  match fields.mapM fun (name?, value) => name?.map fun name => (name, value) with
  | some fields => object fields
  | none => broken

mutual

def readValue (bound : Nat) (chars : List Char) : Option (Json × List Char) :=
  match bound with
  | 0 => none
  | bound + 1 =>
      match skipBlanks chars with
      | [] => none
      | 'n' :: rest => (expect ['u', 'l', 'l'] rest).map (null, ·)
      | 't' :: rest => (expect ['r', 'u', 'e'] rest).map (bool true, ·)
      | 'f' :: rest => (expect ['a', 'l', 's', 'e'] rest).map (bool false, ·)
      | '"' :: rest => (readText rest).map fun (value, rest) => ((value.map text).getD broken, rest)
      | '[' :: rest =>
          match skipBlanks rest with
          | ']' :: rest => some (list [], rest)
          | _ => (readItems bound rest).map fun (items, rest) => (list items, rest)
      | '\x7b' :: rest =>
          match skipBlanks rest with
          | '\x7d' :: rest => some (object [], rest)
          | _ => (readFields bound rest).map fun (fields, rest) => (ofFields fields, rest)
      | chars => readNumber chars

def readItems (bound : Nat) (chars : List Char) : Option (List Json × List Char) :=
  match bound with
  | 0 => none
  | bound + 1 => do
      let (first, rest) ← readValue bound chars
      match skipBlanks rest with
      | ']' :: rest => return ([first], rest)
      | ',' :: rest =>
          let (others, rest) ← readItems bound rest
          return (first :: others, rest)
      | _ => none

def readFields (bound : Nat) (chars : List Char) :
    Option (List (Option String × Json) × List Char) :=
  match bound with
  | 0 => none
  | bound + 1 => do
      let rest ← expect ['"'] (skipBlanks chars)
      let (name, rest) ← readText rest
      let rest ← expect [':'] (skipBlanks rest)
      let (value, rest) ← readValue bound rest
      match skipBlanks rest with
      | '\x7d' :: rest => return ([(name, value)], rest)
      | ',' :: rest =>
          let (others, rest) ← readFields bound rest
          return ((name, value) :: others, rest)
      | _ => none

end

/-- The document that a text is, with nothing but blanks around it. -/
def parse? (source : String) : Option Json := do
  let chars := source.toList
  let (document, rest) ← readValue (2 * chars.length + 2) chars
  if (skipBlanks rest).isEmpty then return document else none

end StateTransition.Json
