import StateTransition.Bytes

set_option autoImplicit false

/-! The BLAKE2b hash without a key. The sixteen words of the working state are kept as
four columns of a square; a round mixes the columns and then the diagonals. -/

namespace StateTransition.Blake2

structure Lane where
  a : UInt64
  b : UInt64
  c : UInt64
  d : UInt64

structure Square where
  first : Lane
  second : Lane
  third : Lane
  fourth : Lane

def rotateRight (word : UInt64) (amount : UInt64) : UInt64 :=
  (word >>> amount) ||| (word <<< (64 - amount))

/-- The mixing function on one lane with two words of the message. -/
def Lane.mix (lane : Lane) (x y : UInt64) : Lane :=
  let a := lane.a + lane.b + x
  let d := rotateRight (lane.d ^^^ a) 32
  let c := lane.c + d
  let b := rotateRight (lane.b ^^^ c) 24
  let a := a + b + y
  let d := rotateRight (d ^^^ a) 16
  let c := c + d
  let b := rotateRight (b ^^^ c) 63
  { a, b, c, d }

def Square.diagonals (square : Square) : Square where
  first := ⟨square.first.a, square.second.b, square.third.c, square.fourth.d⟩
  second := ⟨square.second.a, square.third.b, square.fourth.c, square.first.d⟩
  third := ⟨square.third.a, square.fourth.b, square.first.c, square.second.d⟩
  fourth := ⟨square.fourth.a, square.first.b, square.second.c, square.third.d⟩

def Square.ofDiagonals (square : Square) : Square where
  first := ⟨square.first.a, square.fourth.b, square.third.c, square.second.d⟩
  second := ⟨square.second.a, square.first.b, square.fourth.c, square.third.d⟩
  third := ⟨square.third.a, square.second.b, square.first.c, square.fourth.d⟩
  fourth := ⟨square.fourth.a, square.third.b, square.second.c, square.first.d⟩

/-- The order in which each round reads the message words. -/
def schedule : List (List Nat) :=
  [[0, 1, 2, 3, 4, 5, 6, 7, 8, 9, 10, 11, 12, 13, 14, 15],
   [14, 10, 4, 8, 9, 15, 13, 6, 1, 12, 0, 2, 11, 7, 5, 3],
   [11, 8, 12, 0, 5, 2, 15, 13, 10, 14, 3, 6, 7, 1, 9, 4],
   [7, 9, 3, 1, 13, 12, 11, 14, 2, 6, 5, 10, 4, 0, 15, 8],
   [9, 0, 5, 7, 2, 4, 10, 15, 14, 1, 11, 12, 6, 8, 3, 13],
   [2, 12, 6, 10, 0, 11, 8, 3, 4, 13, 7, 5, 15, 14, 1, 9],
   [12, 5, 1, 15, 14, 13, 4, 10, 0, 7, 6, 3, 9, 2, 8, 11],
   [13, 11, 7, 14, 12, 1, 3, 9, 5, 0, 15, 4, 8, 6, 2, 10],
   [6, 15, 14, 9, 11, 3, 0, 8, 12, 2, 13, 7, 1, 4, 10, 5],
   [10, 2, 8, 4, 7, 6, 1, 5, 15, 11, 9, 14, 3, 12, 13, 0],
   [0, 1, 2, 3, 4, 5, 6, 7, 8, 9, 10, 11, 12, 13, 14, 15],
   [14, 10, 4, 8, 9, 15, 13, 6, 1, 12, 0, 2, 11, 7, 5, 3]]

/-- Mixes the four lanes with eight message words in the given order. -/
def Square.mix (square : Square) (message : Array UInt64) (order : List Nat) : Square :=
  match order with
  | [i0, i1, i2, i3, i4, i5, i6, i7] =>
      let word (index : Nat) : UInt64 := message.getD index 0
      { first := square.first.mix (word i0) (word i1)
        second := square.second.mix (word i2) (word i3)
        third := square.third.mix (word i4) (word i5)
        fourth := square.fourth.mix (word i6) (word i7) }
  | _ => square

def Square.round (message : Array UInt64) (square : Square) (order : List Nat) : Square :=
  ((square.mix message (order.take 8)).diagonals.mix message (order.drop 8)).ofDiagonals

/-- The chaining value: the first two words of every column, column by column. -/
structure Chain where
  top : Lane
  bottom : Lane

def initialVector : Chain where
  top := ⟨0x6a09e667f3bcc908, 0xbb67ae8584caa73b, 0x3c6ef372fe94f82b, 0xa54ff53a5f1d36f1⟩
  bottom := ⟨0x510e527fade682d1, 0x9b05688c2b3e6c1f, 0x1f83d9abfb41bd6b, 0x5be0cd19137e2179⟩

/-- The eight bytes at the front as a little-endian word, and the rest. -/
def wordOf : Bytes → UInt64 × Bytes
  | b0 :: b1 :: b2 :: b3 :: b4 :: b5 :: b6 :: b7 :: rest =>
      (b0.toUInt64 ||| (b1.toUInt64 <<< 8) ||| (b2.toUInt64 <<< 16) ||| (b3.toUInt64 <<< 24) |||
        (b4.toUInt64 <<< 32) ||| (b5.toUInt64 <<< 40) ||| (b6.toUInt64 <<< 48) |||
        (b7.toUInt64 <<< 56), rest)
  | short => (UInt64.ofNat (Bytes.number short), [])

/-- The first `count` words of a block; past its end they are zero. -/
def blockWords : (count : Nat) → Bytes → List UInt64
  | 0, _ => []
  | count + 1, block => (wordOf block).1 :: blockWords count (wordOf block).2

/-- Folds one block into the chaining value. `counted` is the number of bytes up to the
end of the block, and `last` marks the final one. -/
def compress (chain : Chain) (block : Bytes) (counted : Nat) (last : Bool) : Chain :=
  let message := (blockWords 16 block).toArray
  let start : Square :=
    { first := ⟨chain.top.a, chain.bottom.a, initialVector.top.a,
        initialVector.bottom.a ^^^ UInt64.ofNat counted⟩
      second := ⟨chain.top.b, chain.bottom.b, initialVector.top.b, initialVector.bottom.b⟩
      third := ⟨chain.top.c, chain.bottom.c, initialVector.top.c,
        if last then ~~~initialVector.bottom.c else initialVector.bottom.c⟩
      fourth := ⟨chain.top.d, chain.bottom.d, initialVector.top.d, initialVector.bottom.d⟩ }
  let mixed := schedule.foldl (Square.round message) start
  { top := ⟨chain.top.a ^^^ mixed.first.a ^^^ mixed.first.c,
      chain.top.b ^^^ mixed.second.a ^^^ mixed.second.c,
      chain.top.c ^^^ mixed.third.a ^^^ mixed.third.c,
      chain.top.d ^^^ mixed.fourth.a ^^^ mixed.fourth.c⟩
    bottom := ⟨chain.bottom.a ^^^ mixed.first.b ^^^ mixed.first.d,
      chain.bottom.b ^^^ mixed.second.b ^^^ mixed.second.d,
      chain.bottom.c ^^^ mixed.third.b ^^^ mixed.third.d,
      chain.bottom.d ^^^ mixed.fourth.b ^^^ mixed.fourth.d⟩ }

/-- Folds in `before` whole blocks and then the last one, which may be short or empty. -/
def absorb (chain : Chain) (counted : Nat) : (before : Nat) → Bytes → Chain
  | 0, message => compress chain message (counted + message.length) true
  | before + 1, message =>
      absorb (compress chain (message.take 128) (counted + 128) false) (counted + 128) before
        (message.drop 128)

def Lane.bytes (lane : Lane) : Bytes :=
  [lane.a, lane.b, lane.c, lane.d].flatMap fun word => Bytes.littleEndian 8 word.toNat

def digest (size : Nat) (message : Bytes) : Bytes :=
  let parameters : UInt64 := 0x01010000 ^^^ UInt64.ofNat size
  let start : Chain :=
    { initialVector with
      top := { initialVector.top with a := initialVector.top.a ^^^ parameters } }
  let final := absorb start 0 ((message.length - 1) / 128) message
  (final.top.bytes ++ final.bottom.bytes).take size

theorem Lane.bytes_length (lane : Lane) : lane.bytes.length = 32 := by
  simp [Lane.bytes]

theorem digest_length {size : Nat} (message : Bytes) (bound : size ≤ 64) :
    (digest size message).length = size := by
  simp only [digest, List.length_take, List.length_append, Lane.bytes_length]
  omega

end StateTransition.Blake2

namespace StateTransition

def blake256 (message : Bytes) : Hash :=
  .fit 32 (Blake2.digest 32 message)

def blake128 (message : Bytes) : Bytes :=
  Blake2.digest 16 message

end StateTransition
