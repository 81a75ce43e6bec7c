import StateTransition.Word

set_option autoImplicit false

/-! Shares of a whole: parts of a hundred, of 10^9 or of 10^18. Taking a share of a
number rounds to the nearest, and a tie goes down; forming a share rounds down. -/

namespace StateTransition

/-- At most `whole` parts. -/
structure Share (whole : Nat) where
  parts : Nat
  parts_le : parts ≤ whole
deriving DecidableEq

abbrev Percent := Share 100

abbrev Perbill := Share 1000000000

abbrev Perquintill := Share 1000000000000000000

/-- The quotient nearest to `numerator / denominator`; of two nearest, the lower. -/
def divideNearest (numerator denominator : Nat) : Nat :=
  numerator / denominator + if denominator < 2 * (numerator % denominator) then 1 else 0

namespace Share

variable {whole : Nat}

/-- More parts than there are count as the whole. -/
def ofParts (whole parts : Nat) : Share whole where
  parts := min parts whole
  parts_le := Nat.min_le_right _ _

def one (whole : Nat) : Share whole := ofParts whole whole

def ofPercent (whole percent : Nat) : Share whole :=
  ofParts whole (min percent 100 * whole / 100)

def of (share : Share whole) (value : Nat) : Nat :=
  divideNearest (value * share.parts) whole

/-- The share of a word, which is in the word's range again. -/
def ofWord {α : Type} [Word α] (share : Share whole) (value : α) : α :=
  Word.clamp (share.of (Word.toNat value))

/-- The share that `part` is of `total`, rounded down; everything if `total` is zero or
less than `part`. -/
def ofRatio (whole part total : Nat) : Share whole :=
  if total = 0 ∨ total < part then one whole else ofParts whole (part * whole / total)

end Share

end StateTransition
