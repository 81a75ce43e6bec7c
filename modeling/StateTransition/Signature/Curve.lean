import StateTransition.Bytes

set_option autoImplicit false

/-! The twisted Edwards curve of ed25519, over natural numbers below the field's prime.
Points are kept in extended coordinates, so that adding needs no division. -/

namespace StateTransition.Curve

def highPlace : Nat := 1 <<< 255

def fieldPrime : Nat := highPlace - 19

def groupOrder : Nat := (1 <<< 252) + 27742317777372353535851937790883648493

def add (left right : Nat) : Nat := (left + right) % fieldPrime

def sub (left right : Nat) : Nat := (left + fieldPrime - right % fieldPrime) % fieldPrime

def mul (left right : Nat) : Nat := left * right % fieldPrime

/-- `base` to the power whose binary digits, most significant first, are given. -/
def powerDigits (base : Nat) : List Bool → Nat → Nat
  | [], accumulated => accumulated
  | digit :: rest, accumulated =>
      let squared := mul accumulated accumulated
      powerDigits base rest (if digit then mul squared base else squared)

/-- The `count` lowest binary digits of a number, most significant first. -/
def digits (count value : Nat) : List Bool :=
  (List.range count).foldl (fun digits place => value.testBit place :: digits) []

def power (base exponent : Nat) : Nat := powerDigits base (digits 255 exponent) 1

/-- The reciprocal, by Fermat's little theorem; that of zero is zero. -/
def reciprocal (value : Nat) : Nat := power value (fieldPrime - 2)

def edwards : Nat :=
  37095705934669439343138083508754565189542113879843219016388785533085940283555

def rootOfMinusOne : Nat :=
  19681161376707505956807079304988542015446066515923890162744021073123829784752

/-- The even one of the two square roots of `numerator / denominator`, if there is one;
the root of zero is zero. -/
def rootOfRatio? (numerator denominator : Nat) : Option Nat :=
  let denominatorCubed := mul (mul denominator denominator) denominator
  let denominatorSeventh := mul (mul denominatorCubed denominatorCubed) denominator
  let candidate := mul (mul numerator denominatorCubed)
    (power (mul numerator denominatorSeventh) ((fieldPrime - 5) / 8))
  let check := mul denominator (mul candidate candidate)
  let root? :=
    if check = numerator then some candidate
    else if check = sub 0 numerator then some (mul candidate rootOfMinusOne)
    else none
  root?.map fun root => if root % 2 = 0 then root else sub 0 root

structure Point where
  x : Nat
  y : Nat
  z : Nat
  t : Nat

namespace Point

def identity : Point := { x := 0, y := 1, z := 1, t := 0 }

def base : Point :=
  let x := 15112221349535400772501151409588531511454012693041857206046113283949847762202
  let y := 46316835694926478169428394003475163141307993866256225615783033603165251855960
  { x, y, z := 1, t := mul x y }

def plus (left right : Point) : Point :=
  let a := mul (sub left.y left.x) (sub right.y right.x)
  let b := mul (add left.y left.x) (add right.y right.x)
  let c := mul (mul left.t (2 * edwards)) right.t
  let d := mul (mul left.z 2) right.z
  let e := sub b a
  let f := sub d c
  let g := add d c
  let h := add b a
  { x := mul e f, y := mul g h, z := mul f g, t := mul e h }

def negate (point : Point) : Point :=
  { point with x := sub 0 point.x, t := sub 0 point.t }

def timesDigits (point : Point) : List Bool → Point → Point
  | [], accumulated => accumulated
  | digit :: rest, accumulated =>
      let doubled := accumulated.plus accumulated
      timesDigits point rest (if digit then doubled.plus point else doubled)

def times (scalar : Nat) (point : Point) : Point :=
  timesDigits point (digits 256 scalar) identity

/-- The y coordinate in 255 bits, and the parity of x in the last. -/
def encode (point : Point) : Octets 32 :=
  let inverse := reciprocal point.z
  let x := mul point.x inverse
  let y := mul point.y inverse
  .fit 32 (Bytes.littleEndian 32 (y + (x % 2) * highPlace))

/-- The point of an encoding. The y coordinate is taken modulo the prime, and a zero x
has either parity. -/
def decode? (encoded : Octets 32) : Option Point :=
  let value := Bytes.number encoded.bytes
  let y := value % highPlace % fieldPrime
  let squared := mul y y
  (rootOfRatio? (sub squared 1) (add (mul edwards squared) 1)).map fun root =>
    let x := if value.testBit 255 then sub 0 root else root
    { x, y, z := 1, t := mul x y }

end Point

end StateTransition.Curve
