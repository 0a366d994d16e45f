import SealedPost.Crypto.Words

/-! # Salsa20, HSalsa20 and XSalsa20

The core turns a key, an input block and four constants into a square of words by ten
double rounds. Adding the initial square gives a block of the stream; taking eight words
of the result gives a derived key. The extended nonce goes in by deriving a key from its
first sixteen bytes and streaming under the rest. -/

namespace SealedPost.Crypto.Salsa20

/-- One quarter of a round. -/
def quarterRound (q : Quad) : Quad :=
  let b := q.b ^^^ rotateLeft (q.a + q.d) 7
  let c := q.c ^^^ rotateLeft (b + q.a) 9
  let d := q.d ^^^ rotateLeft (c + b) 13
  let a := q.a ^^^ rotateLeft (d + c) 18
  ⟨a, b, c, d⟩

/-- The quarter rounds on the columns. -/
def columnRound (s : Square) : Square :=
  let p := quarterRound ⟨s.x0, s.x4, s.x8, s.x12⟩
  let q := quarterRound ⟨s.x5, s.x9, s.x13, s.x1⟩
  let r := quarterRound ⟨s.x10, s.x14, s.x2, s.x6⟩
  let t := quarterRound ⟨s.x15, s.x3, s.x7, s.x11⟩
  ⟨p.a, q.d, r.c, t.b, p.b, q.a, r.d, t.c, p.c, q.b, r.a, t.d, p.d, q.c, r.b, t.a⟩

/-- The quarter rounds on the rows. -/
def rowRound (s : Square) : Square :=
  let p := quarterRound ⟨s.x0, s.x1, s.x2, s.x3⟩
  let q := quarterRound ⟨s.x5, s.x6, s.x7, s.x4⟩
  let r := quarterRound ⟨s.x10, s.x11, s.x8, s.x9⟩
  let t := quarterRound ⟨s.x15, s.x12, s.x13, s.x14⟩
  ⟨p.a, p.b, p.c, p.d, q.d, q.a, q.b, q.c, r.c, r.d, r.a, r.b, t.b, t.c, t.d, t.a⟩

/-- A number of double rounds. -/
def doubleRounds : (count : Nat) → Square → Square
  | 0, s => s
  | count + 1, s => doubleRounds count (rowRound (columnRound s))

/-- The square of a key of 32 bytes and an input of 16 bytes around the constants. -/
def initial (key input : Bytes) : Square where
  x0 := 0x61707865
  x1 := wordAt key 0
  x2 := wordAt key 1
  x3 := wordAt key 2
  x4 := wordAt key 3
  x5 := 0x3320646e
  x6 := wordAt input 0
  x7 := wordAt input 1
  x8 := wordAt input 2
  x9 := wordAt input 3
  x10 := 0x79622d32
  x11 := wordAt key 4
  x12 := wordAt key 5
  x13 := wordAt key 6
  x14 := wordAt key 7
  x15 := 0x6b206574

/-- The key derived from a key of 32 bytes and an input of 16 bytes. -/
def deriveKey (key input : Bytes) : Bytes :=
  let s := doubleRounds 10 (initial key input)
  [s.x0, s.x5, s.x10, s.x15, s.x6, s.x7, s.x8, s.x9].flatMap wordBytes

theorem length_deriveKey (key input : Bytes) : (deriveKey key input).length = 32 := by
  simp [deriveKey]

/-- A block of 64 bytes of the stream, by its number. -/
def block (key nonce : Bytes) (number : Nat) : Bytes :=
  let start := initial key (nonce ++ Bytes.ofNat 8 number)
  let mixed := doubleRounds 10 start
  (List.zipWith (· + ·) start.toList mixed.toList).flatMap wordBytes

theorem length_block (key nonce : Bytes) (number : Nat) :
    (block key nonce number).length = 64 := by
  simp [block, Square.toList]

/-- The first bytes of the stream of a key and a nonce of 8 bytes. -/
def stream (key nonce : Bytes) (length : Nat) : Bytes :=
  ((List.range ((length + 63) / 64)).flatMap (block key nonce)).take length

/-- The first bytes of the stream of a key and a nonce of 24 bytes. -/
def extendedStream (key nonce : Bytes) (length : Nat) : Bytes :=
  stream (deriveKey key (nonce.take 16)) (nonce.drop 16) length

theorem length_flatMap_block (key nonce : Bytes) (numbers : List Nat) :
    (numbers.flatMap (block key nonce)).length = 64 * numbers.length := by
  induction numbers with
  | nil => rfl
  | cons n rest ih => simp [length_block, ih]; omega

theorem length_stream (key nonce : Bytes) (length : Nat) :
    (stream key nonce length).length = length := by
  rw [stream, List.length_take, length_flatMap_block, List.length_range]
  omega

end SealedPost.Crypto.Salsa20
