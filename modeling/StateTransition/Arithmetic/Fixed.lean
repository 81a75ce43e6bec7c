import StateTransition.Word

set_option autoImplicit false

/-! Unsigned fixed-point numbers with eighteen decimals. Products, quotients and ratios
round down; a result outside the range saturates. -/

namespace StateTransition

/-- The number `parts / 10^18`. -/
structure Fixed where
  parts : U128
deriving DecidableEq

namespace Fixed

def unit : Nat := 1000000000000000000

/-- The fixed-point number nearest to `parts / 10^18`. -/
def ofParts (parts : Nat) : Fixed := ⟨Word.clamp parts⟩

def toNat (number : Fixed) : Nat := number.parts.toNat

def zero : Fixed := ofParts 0

def one : Fixed := ofParts unit

def top : Fixed := ⟨Word.top⟩

def ofInteger (value : Nat) : Fixed := ofParts (value * unit)

def ofRatio (numerator denominator : Nat) : Fixed := ofParts (numerator * unit / denominator)

def saturatingAdd (left right : Fixed) : Fixed := ofParts (left.toNat + right.toNat)

def saturatingSub (left right : Fixed) : Fixed := ofParts (left.toNat - right.toNat)

def saturatingMul (left right : Fixed) : Fixed := ofParts (left.toNat * right.toNat / unit)

def divide (left right : Fixed) : Fixed := ofParts (left.toNat * unit / right.toNat)

def times {α : Type} [Word α] (number : Fixed) (value : α) : α :=
  Word.clamp (number.toNat * Word.toNat value / unit)

def max (left right : Fixed) : Fixed := if left.toNat < right.toNat then right else left

/-- The number of the interval nearest to this one, or nothing if the interval has its
bounds the wrong way round. -/
def clamp? (number least most : Fixed) : Option Fixed :=
  if most.toNat < least.toNat then none
  else if number.toNat < least.toNat then some least
  else if most.toNat < number.toNat then some most
  else some number

end Fixed

end StateTransition
