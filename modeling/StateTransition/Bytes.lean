set_option autoImplicit false

/-! Byte strings: their dictionary order, their little-endian numbers and their
hexadecimal text. -/

namespace StateTransition

abbrev Bytes := List UInt8

namespace Bytes

def littleEndian : (width : Nat) → (value : Nat) → Bytes
  | 0, _ => []
  | width + 1, value => UInt8.ofNat value :: littleEndian width (value / 256)

/-- The number whose base-256 digits, least significant first, are these bytes. -/
def number : Bytes → Nat
  | [] => 0
  | byte :: rest => byte.toNat + 256 * number rest

def span : (width : Nat) → Nat
  | 0 => 1
  | width + 1 => 256 * span width

@[simp] theorem littleEndian_length (width value : Nat) :
    (littleEndian width value).length = width := by
  induction width generalizing value with
  | zero => rfl
  | succ width ih => simp [littleEndian, ih]

theorem number_lt (bytes : Bytes) : number bytes < span bytes.length := by
  induction bytes with
  | nil => simp [number, span]
  | cons byte rest ih =>
    have bound := byte.toNat_lt
    simp only [number, List.length_cons, span]
    omega

theorem number_littleEndian (width value : Nat) :
    number (littleEndian width value) = value % span width := by
  induction width generalizing value with
  | zero => simp [littleEndian, number, span, Nat.mod_one]
  | succ width ih =>
    have split : value % (256 * span width) =
        value % 256 + 256 * (value / 256 % span width) := Nat.mod_mul
    simp only [littleEndian, number, ih, span, split]
    simp

theorem littleEndian_number (bytes : Bytes) :
    littleEndian bytes.length (number bytes) = bytes := by
  induction bytes with
  | nil => rfl
  | cons byte rest ih =>
    have bound := byte.toNat_lt
    have high : (byte.toNat + 256 * number rest) / 256 = number rest := by omega
    have low : UInt8.ofNat (byte.toNat + 256 * number rest) = byte := by
      apply UInt8.toNat_inj.mp
      simp only [UInt8.toNat_ofNat']
      omega
    simp [littleEndian, number, high, low, ih]

/-- Dictionary order: the first byte that differs decides, and a proper beginning
comes first. -/
def before : Bytes → Bytes → Bool
  | _, [] => false
  | [], _ :: _ => true
  | left :: leftRest, right :: rightRest =>
      if left < right then true
      else if right < left then false
      else before leftRest rightRest

@[simp] theorem before_irrefl (bytes : Bytes) : before bytes bytes = false := by
  induction bytes with
  | nil => rfl
  | cons byte rest ih =>
    have same : ¬byte < byte := by simp
    simp [before, ih, same]

theorem before_trans {first second third : Bytes} (earlier : before first second = true)
    (later : before second third = true) : before first third = true := by
  induction first generalizing second third with
  | nil =>
    cases third with
    | nil => simp [before] at later
    | cons => simp [before]
  | cons x first ih =>
    cases second with
    | nil => simp [before] at earlier
    | cons y second =>
      cases third with
      | nil => simp [before] at later
      | cons z third =>
        simp only [before, UInt8.lt_iff_toNat_lt] at earlier later ⊢
        grind

theorem eq_of_not_before {left right : Bytes} (notLess : before left right = false)
    (notGreater : before right left = false) : left = right := by
  induction left generalizing right with
  | nil =>
    cases right with
    | nil => rfl
    | cons => simp [before] at notLess
  | cons x left ih =>
    cases right with
    | nil => simp [before] at notGreater
    | cons y right =>
      simp only [before, UInt8.lt_iff_toNat_lt] at notLess notGreater
      have same : x.toNat = y.toNat := by grind
      have head : x = y := UInt8.toNat_inj.mp same
      subst head
      simp only [Nat.lt_irrefl, if_false] at notLess notGreater
      rw [ih notLess notGreater]

theorem before_ne {left right : Bytes} (earlier : before left right = true) : left ≠ right := by
  rintro rfl
  simp at earlier

theorem before_asymm {left right : Bytes} (earlier : before left right = true) :
    before right left = false := by
  cases later : before right left with
  | false => rfl
  | true => simpa using before_trans earlier later

def startsWith (bytes head : Bytes) : Bool :=
  match head, bytes with
  | [], _ => true
  | _ :: _, [] => false
  | first :: headRest, byte :: rest => first == byte && startsWith rest headRest

def ofText (text : String) : Bytes :=
  text.toUTF8.data.toList

/-- The text these bytes are the UTF-8 form of, if there is one. -/
def toText? (bytes : Bytes) : Option String :=
  String.fromUTF8? ⟨bytes.toArray⟩

/-! ### Hexadecimal text -/

def hexDigit (value : Nat) : Char :=
  if value < 10 then Char.ofNat (48 + value) else Char.ofNat (87 + value)

def hexValue? (digit : Char) : Option Nat :=
  if '0' ≤ digit ∧ digit ≤ '9' then some (digit.toNat - 48)
  else if 'a' ≤ digit ∧ digit ≤ 'f' then some (digit.toNat - 87)
  else if 'A' ≤ digit ∧ digit ≤ 'F' then some (digit.toNat - 55)
  else none

def hexDigits : Bytes → List Char
  | [] => []
  | byte :: rest =>
      hexDigit (byte.toNat / 16) :: hexDigit (byte.toNat % 16) :: hexDigits rest

def hex (bytes : Bytes) : String :=
  String.ofList (hexDigits bytes)

/-- Reads pairs of digits; an odd digit at the end is refused. -/
def ofHexDigits? : List Char → Option Bytes
  | [] => some []
  | [_] => none
  | high :: low :: rest =>
      match hexValue? high, hexValue? low, ofHexDigits? rest with
      | some highValue, some lowValue, some bytes =>
          some (UInt8.ofNat (16 * highValue + lowValue) :: bytes)
      | _, _, _ => none

def ofHex? (text : String) : Option Bytes :=
  ofHexDigits? text.toList

end Bytes

structure Octets (length : Nat) where
  bytes : Bytes
  length_eq : bytes.length = length
deriving DecidableEq

namespace Octets

def fit (length : Nat) (bytes : Bytes) : Octets length where
  bytes := (bytes ++ List.replicate length 0).take length
  length_eq := by simp

def zero (length : Nat) : Octets length where
  bytes := List.replicate length 0
  length_eq := by simp

def filled (length : Nat) (byte : UInt8) : Octets length where
  bytes := List.replicate length byte
  length_eq := by simp

theorem fit_of_length {length : Nat} (bytes : Bytes) (exact_length : bytes.length = length) :
    (fit length bytes).bytes = bytes := by
  simp [fit, ← exact_length]

instance {length : Nat} : Inhabited (Octets length) where
  default := zero length

end Octets

abbrev Hash := Octets 32

end StateTransition
