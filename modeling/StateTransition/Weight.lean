import StateTransition.Arithmetic.Share
import StateTransition.Codec.Compact

set_option autoImplicit false

/-! The weight of a call: how much time it takes and how much proof it needs. -/

namespace StateTransition

structure Weight where
  refTime : UInt64
  proofSize : UInt64
deriving DecidableEq

namespace Weight

def combine (operation : UInt64 → UInt64 → UInt64) (left right : Weight) : Weight where
  refTime := operation left.refTime right.refTime
  proofSize := operation left.proofSize right.proofSize

def all (relation : UInt64 → UInt64 → Bool) (left right : Weight) : Bool :=
  relation left.refTime right.refTime && relation left.proofSize right.proofSize

def any (relation : UInt64 → UInt64 → Bool) (left right : Weight) : Bool :=
  relation left.refTime right.refTime || relation left.proofSize right.proofSize

def greater (left right : UInt64) : Bool := right < left

def atLeast (left right : UInt64) : Bool := right ≤ left

def anyGreater (left right : Weight) : Bool := any greater left right

def allGreater (left right : Weight) : Bool := all greater left right

def allAtLeast (left right : Weight) : Bool := all atLeast left right

def ofBoth (value : UInt64) : Weight := ⟨value, value⟩

def zero : Weight := ofBoth 0

def top : Weight := ofBoth Word.top

def isZero (weight : Weight) : Bool := weight.refTime == 0 && weight.proofSize == 0

def saturatingAdd (left right : Weight) : Weight := combine Word.saturatingAdd left right

def saturatingSub (left right : Weight) : Weight := combine Word.saturatingSub left right

def saturatingMul (weight : Weight) (factor : UInt64) : Weight :=
  combine Word.saturatingMul weight (ofBoth factor)

def lesser (left right : Weight) : Weight :=
  combine (fun first second => if first < second then first else second) left right

def larger (left right : Weight) : Weight :=
  combine (fun first second => if second < first then first else second) left right

/-- Applies a partial operation in each dimension; both have to succeed. -/
def combine? (operation : UInt64 → UInt64 → Option UInt64) (left right : Weight) :
    Option Weight :=
  match operation left.refTime right.refTime, operation left.proofSize right.proofSize with
  | some refTime, some proofSize => some { refTime, proofSize }
  | _, _ => none

def checkedAdd? (left right : Weight) : Option Weight := combine? Word.checkedAdd? left right

def checkedSub? (left right : Weight) : Option Weight := combine? Word.checkedSub? left right

def checkedMul? (weight : Weight) (factor : UInt64) : Option Weight :=
  combine? (fun left right => Word.ofNat? (left.toNat * right.toNat)) weight (ofBoth factor)

def divide (weight : Weight) (divisor : UInt64) : Weight :=
  combine (· / ·) weight (ofBoth divisor)

/-- How many times `part` goes into the weight: the smallest quotient over the dimensions
in which `part` is not zero, and nothing if it is zero in both. -/
def quotient? (whole part : Weight) : Option UInt64 :=
  match part.refTime == 0, part.proofSize == 0 with
  | true, true => none
  | false, true => some (whole.refTime / part.refTime)
  | true, false => some (whole.proofSize / part.proofSize)
  | false, false => some (min (whole.refTime / part.refTime) (whole.proofSize / part.proofSize))

def share {whole : Nat} (ratio : Share whole) (weight : Weight) : Weight where
  refTime := ratio.ofWord weight.refTime
  proofSize := ratio.ofWord weight.proofSize

def codec : Codec Weight :=
  (Codec.compact.pair Codec.compact).via (fun parts => ⟨parts.1, parts.2⟩)
    (fun weight => (weight.refTime, weight.proofSize))

def describe (weight : Weight) : String :=
  "Weight \x7b ref_time: " ++ Word.decimal weight.refTime ++ ", proof_size: " ++
    Word.decimal weight.proofSize ++ " \x7d"

end Weight

structure StoreWeight where
  read : UInt64
  write : UInt64
deriving DecidableEq

namespace StoreWeight

def reads (unit : StoreWeight) (count : UInt64) : Weight :=
  ⟨Word.saturatingMul unit.read count, 0⟩

def writes (unit : StoreWeight) (count : UInt64) : Weight :=
  ⟨Word.saturatingMul unit.write count, 0⟩

def readsAndWrites (unit : StoreWeight) (readCount writeCount : UInt64) : Weight :=
  (unit.reads readCount).saturatingAdd (unit.writes writeCount)

def codec : Codec StoreWeight :=
  (Codec.word.pair Codec.word).via (fun parts => ⟨parts.1, parts.2⟩)
    (fun unit => (unit.read, unit.write))

/-- A tenth of a millisecond to write, and a quarter of that to read. -/
def disk : StoreWeight where
  read := 25000000
  write := 100000000

end StoreWeight

/-- How a weight, or a length in its place, is turned into a fee. -/
inductive FeeRule (balance : Type) where
  | identity
  | multiple (factor : balance)

/-- The fee for the time of a weight; its proof is free. -/
def FeeRule.fee {balance : Type} [Word balance] (rule : FeeRule balance) (weight : Weight) :
    balance :=
  match rule with
  | .identity => Word.convert weight.refTime
  | .multiple factor => Word.saturatingMul (Word.convert weight.refTime) factor

end StateTransition
