import StateTransition.Codec.Compact

set_option autoImplicit false

/-! Eras: for which blocks a transaction is valid. A mortal era repeats every `period`
blocks and begins at `phase` within each period; a long period has a coarse phase, so that
both fit in two bytes. -/

namespace StateTransition

inductive Era where
  | immortal
  | mortal (period phase : UInt64)
deriving DecidableEq

namespace Era

/-- The least power of two that is no less than `value`. -/
def powerAtLeast (value : Nat) : Nat :=
  if value ≤ 1 then 1 else 1 <<< (Nat.log2 (value - 1) + 1)

/-- The step between phases that can be written, for a period. -/
def phaseStep (period : Nat) : Nat := max (period / 4096) 1

def leastPeriod : Nat := 4

def mostPeriod : Nat := 65536

/-- The era of the least period that can be written and is no less than `period`, if there
is one, which begins at `current` or as shortly before as can be written. -/
def around (period current : UInt64) : Era :=
  let rounded := min (max (powerAtLeast period.toNat) leastPeriod) mostPeriod
  let step := phaseStep rounded
  let phase := current.toNat % rounded / step * step
  .mortal (UInt64.ofNat rounded) (UInt64.ofNat phase)

/-- The first block of the era that `current` belongs to. A period of zero has none. -/
def birth? (era : Era) (current : UInt64) : Option UInt64 :=
  match era with
  | .immortal => some 0
  | .mortal period phase =>
      if period = 0 then none
      else
        let start := if current < phase then phase else current
        some ((start - phase) / period * period + phase)

def death? (era : Era) (current : UInt64) : Option UInt64 :=
  match era with
  | .immortal => some Word.top
  | .mortal period _ => (era.birth? current).map (· + period)

def isImmortal (era : Era) : Bool := era = .immortal

def twos : (width value : Nat) → Nat
  | 0, _ => 0
  | width + 1, value => if value % 2 = 0 then twos width (value / 2) + 1 else 0

/-- The sixteen bits of a mortal era: the exponent of its period in the lowest four, less
one, and its phase in steps. -/
def bits (period phase : UInt64) : Nat :=
  let exponent := min (max (twos 64 period.toNat - 1) 1) 15
  (exponent + 16 * (phase.toNat / phaseStep period.toNat)) % 65536

/-- Reads sixteen bits, which have to be those of a phase within its period. -/
def ofBits (bits : Nat) : Except CodecError Era :=
  let period := 1 <<< (bits % 16 + 1)
  let phase := bits / 16 * phaseStep period
  if leastPeriod ≤ period ∧ phase < period then
    .ok (.mortal (UInt64.ofNat period) (UInt64.ofNat phase))
  else .error .periodAndPhase

def codec : Codec Era where
  encode
    | .immortal => [0]
    | .mortal period phase => Bytes.littleEndian 2 (bits period phase)
  decode
    | [] => .error .malformed
    | 0 :: rest => .ok (.immortal, rest)
    | [_] => .error .malformed
    | low :: high :: rest =>
        match ofBits (low.toNat + 256 * high.toNat) with
        | .ok era => .ok (era, rest)
        | .error cause => .error cause

def describe : Era → String
  | .immortal => "Immortal"
  | .mortal period phase =>
      "Mortal(" ++ Word.decimal period ++ ", " ++ Word.decimal phase ++ ")"

end Era

end StateTransition
