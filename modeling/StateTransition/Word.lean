import StateTransition.Bytes

set_option autoImplicit false

/-! Unsigned numbers of a fixed width, seen through their value. All arithmetic that
saturates or reports overflow is stated once, for every width. -/

namespace StateTransition

/-- Numbers of `width` bytes. `clamp` is the representable number nearest to a value. -/
class Word (α : Type) where
  width : Nat
  toNat : α → Nat
  clamp : Nat → α
  toNat_lt : ∀ word : α, toNat word < Bytes.span width
  toNat_clamp : ∀ value : Nat, toNat (clamp value) = min value (Bytes.span width - 1)
  toNat_injective : ∀ left right : α, toNat left = toNat right → left = right

/-- What is no greater than `top` stays the same modulo the number after it. -/
theorem min_mod (value top : Nat) : min value top % (top + 1) = min value top :=
  Nat.mod_eq_of_lt (Nat.lt_succ_of_le (Nat.min_le_right value top))

abbrev U128 := BitVec 128

instance : Word UInt8 where
  width := 1
  toNat := UInt8.toNat
  clamp value := UInt8.ofNat (min value 255)
  toNat_lt word := word.toNat_lt
  toNat_clamp value := UInt8.toNat_ofNat'.trans (min_mod value 255)
  toNat_injective _ _ := UInt8.toNat_inj.mp

instance : Word UInt16 where
  width := 2
  toNat := UInt16.toNat
  clamp value := UInt16.ofNat (min value 65535)
  toNat_lt word := word.toNat_lt
  toNat_clamp value := UInt16.toNat_ofNat'.trans (min_mod value 65535)
  toNat_injective _ _ := UInt16.toNat_inj.mp

instance : Word UInt32 where
  width := 4
  toNat := UInt32.toNat
  clamp value := UInt32.ofNat (min value 4294967295)
  toNat_lt word := word.toNat_lt
  toNat_clamp value := UInt32.toNat_ofNat'.trans (min_mod value 4294967295)
  toNat_injective _ _ := UInt32.toNat_inj.mp

instance : Word UInt64 where
  width := 8
  toNat := UInt64.toNat
  clamp value := UInt64.ofNat (min value 18446744073709551615)
  toNat_lt word := word.toNat_lt
  toNat_clamp value := UInt64.toNat_ofNat'.trans (min_mod value 18446744073709551615)
  toNat_injective _ _ := UInt64.toNat_inj.mp

instance : Word U128 where
  width := 16
  toNat := BitVec.toNat
  clamp value := BitVec.ofNat 128 (min value 340282366920938463463374607431768211455)
  toNat_lt word := word.isLt
  toNat_clamp value := (BitVec.toNat_ofNat _ _).trans
    (min_mod value 340282366920938463463374607431768211455)
  toNat_injective _ _ := BitVec.eq_of_toNat_eq

namespace Word

variable {α : Type} [Word α]

def top : α := clamp (Bytes.span (width α) - 1)

def zero : α := clamp 0

def one : α := clamp 1

def saturatingAdd (left right : α) : α := clamp (toNat left + toNat right)

def saturatingSub (left right : α) : α := clamp (toNat left - toNat right)

def saturatingMul (left right : α) : α := clamp (toNat left * toNat right)

/-- The number of that value, or nothing where the type ends. -/
def ofNat? (value : Nat) : Option α :=
  if value < Bytes.span (width α) then some (clamp value) else none

def checkedAdd? (left right : α) : Option α := ofNat? (toNat left + toNat right)

def checkedSub? (left right : α) : Option α :=
  if toNat right ≤ toNat left then some (clamp (toNat left - toNat right)) else none

def isZero (word : α) : Bool := toNat word == 0

/-- The same value in another width, or the nearest one it has. -/
def convert {β : Type} [Word β] (word : α) : β := clamp (toNat word)

def decimal (word : α) : String := toString (toNat word)

theorem toNat_clamp_of_lt {value : Nat} (bound : value < Bytes.span (width α)) :
    toNat (clamp value : α) = value := by
  rw [toNat_clamp]
  omega

@[simp] theorem clamp_toNat (word : α) : clamp (toNat word) = word :=
  toNat_injective _ _ (toNat_clamp_of_lt (toNat_lt word))

end Word

end StateTransition
