import SealedPost.Crypto.Words

/-! # BLAKE2s

The digest of 32 bytes without a key. Blocks of 64 bytes are mixed into eight words, ten
rounds a block; the last block, filled up with zeros, is marked as the last. -/

namespace SealedPost.Crypto.Blake2s

/-- Eight words of 32 bits. -/
structure State where
  h0 : UInt32
  h1 : UInt32
  h2 : UInt32
  h3 : UInt32
  h4 : UInt32
  h5 : UInt32
  h6 : UInt32
  h7 : UInt32

/-- The constants. -/
def constants : State where
  h0 := 0x6a09e667
  h1 := 0xbb67ae85
  h2 := 0x3c6ef372
  h3 := 0xa54ff53a
  h4 := 0x510e527f
  h5 := 0x9b05688c
  h6 := 0x1f83d9ab
  h7 := 0x5be0cd19

/-- The state before the first block: 32 bytes of digest, no key. -/
def initial : State := { constants with h0 := constants.h0 ^^^ 0x01010020 }

/-- The order in which each round takes the words of the block. -/
def schedule : List (List Nat) := [
  [0, 1, 2, 3, 4, 5, 6, 7, 8, 9, 10, 11, 12, 13, 14, 15],
  [14, 10, 4, 8, 9, 15, 13, 6, 1, 12, 0, 2, 11, 7, 5, 3],
  [11, 8, 12, 0, 5, 2, 15, 13, 10, 14, 3, 6, 7, 1, 9, 4],
  [7, 9, 3, 1, 13, 12, 11, 14, 2, 6, 5, 10, 4, 0, 15, 8],
  [9, 0, 5, 7, 2, 4, 10, 15, 14, 1, 11, 12, 6, 8, 3, 13],
  [2, 12, 6, 10, 0, 11, 8, 3, 4, 13, 7, 5, 15, 14, 1, 9],
  [12, 5, 1, 15, 14, 13, 4, 10, 0, 7, 6, 3, 9, 2, 8, 11],
  [13, 11, 7, 14, 12, 1, 3, 9, 5, 0, 15, 4, 8, 6, 2, 10],
  [6, 15, 14, 9, 11, 3, 0, 8, 12, 2, 13, 7, 1, 4, 10, 5],
  [10, 2, 8, 4, 7, 6, 1, 5, 15, 11, 9, 14, 3, 12, 13, 0]]

/-- Mixes two words of the block into four words. -/
def mix (q : Quad) (x y : UInt32) : Quad :=
  let a := q.a + q.b + x
  let d := rotateRight (q.d ^^^ a) 16
  let c := q.c + d
  let b := rotateRight (q.b ^^^ c) 12
  let a := a + b + y
  let d := rotateRight (d ^^^ a) 8
  let c := c + d
  let b := rotateRight (b ^^^ c) 7
  ⟨a, b, c, d⟩

/-- One round: the columns, then the diagonals. -/
def round (block : Bytes) (s : Square) (order : List Nat) : Square :=
  let m (i : Nat) : UInt32 := wordAt block (order.getD i 0)
  let p := mix ⟨s.x0, s.x4, s.x8, s.x12⟩ (m 0) (m 1)
  let q := mix ⟨s.x1, s.x5, s.x9, s.x13⟩ (m 2) (m 3)
  let r := mix ⟨s.x2, s.x6, s.x10, s.x14⟩ (m 4) (m 5)
  let t := mix ⟨s.x3, s.x7, s.x11, s.x15⟩ (m 6) (m 7)
  let u := mix ⟨p.a, q.b, r.c, t.d⟩ (m 8) (m 9)
  let v := mix ⟨q.a, r.b, t.c, p.d⟩ (m 10) (m 11)
  let w := mix ⟨r.a, t.b, p.c, q.d⟩ (m 12) (m 13)
  let z := mix ⟨t.a, p.b, q.c, r.d⟩ (m 14) (m 15)
  ⟨u.a, v.a, w.a, z.a, z.b, u.b, v.b, w.b, w.c, z.c, u.c, v.c, v.d, w.d, z.d, u.d⟩

/-- Mixes in a block; `count` is the number of message bytes up to its end. -/
def absorb (s : State) (count : Nat) (last : Bool) (block : Bytes) : State :=
  let k := constants
  let start : Square :=
    { x0 := s.h0, x1 := s.h1, x2 := s.h2, x3 := s.h3,
      x4 := s.h4, x5 := s.h5, x6 := s.h6, x7 := s.h7,
      x8 := k.h0, x9 := k.h1, x10 := k.h2, x11 := k.h3,
      x12 := k.h4 ^^^ UInt32.ofNat count, x13 := k.h5 ^^^ UInt32.ofNat (count / Nat.pow 2 32),
      x14 := if last then ~~~k.h6 else k.h6, x15 := k.h7 }
  let v := schedule.foldl (round block) start
  { h0 := s.h0 ^^^ v.x0 ^^^ v.x8, h1 := s.h1 ^^^ v.x1 ^^^ v.x9,
    h2 := s.h2 ^^^ v.x2 ^^^ v.x10, h3 := s.h3 ^^^ v.x3 ^^^ v.x11,
    h4 := s.h4 ^^^ v.x4 ^^^ v.x12, h5 := s.h5 ^^^ v.x5 ^^^ v.x13,
    h6 := s.h6 ^^^ v.x6 ^^^ v.x14, h7 := s.h7 ^^^ v.x7 ^^^ v.x15 }

/-- Mixes in blocks, of which the last is marked; `count` bytes came before. -/
def absorbAll (s : State) (count : Nat) : List Bytes → State
  | [] => absorb s count true []
  | [block] => absorb s (count + block.length) true block
  | block :: next :: rest =>
    absorbAll (absorb s (count + 64) false block) (count + 64) (next :: rest)

/-- The digest of 32 bytes. -/
def digest (message : Bytes) : Bytes :=
  let s := absorbAll initial 0 (Bytes.chunks 64 message)
  [s.h0, s.h1, s.h2, s.h3, s.h4, s.h5, s.h6, s.h7].flatMap wordBytes

theorem length_digest (message : Bytes) : (digest message).length = 32 := by
  simp [digest]

end SealedPost.Crypto.Blake2s
