import SealedPost.Text.Basic

/-! # Byte strings

Byte strings are lists of octets. This module gives their little-endian reading as
numbers, their cutting into blocks and their hexadecimal text; the main statement is
that a number written in enough bytes reads back. -/

namespace SealedPost

/-- A byte string. -/
abbrev Bytes := List UInt8

namespace Bytes

/-- The number whose little-endian digits in base 256 are the given bytes. -/
def toNat : Bytes → Nat
  | [] => 0
  | b :: rest => b.toNat + 256 * toNat rest

/-- The lowest bytes of a number, the lowest one first. -/
def ofNat : (width : Nat) → (n : Nat) → Bytes
  | 0, _ => []
  | width + 1, n => UInt8.ofNat n :: ofNat width (n / 256)

@[simp] theorem length_ofNat (width n : Nat) : (ofNat width n).length = width := by
  induction width generalizing n with
  | zero => rfl
  | succ width ih => simp [ofNat, ih]

theorem toNat_ofNat {width n : Nat} (h : n < Nat.pow 256 width) : toNat (ofNat width n) = n := by
  induction width generalizing n with
  | zero =>
    have hn : n < 1 := h
    simp [ofNat, toNat]
    omega
  | succ width ih =>
    have hdiv : n / 256 < Nat.pow 256 width := by
      have hn : n < Nat.pow 256 width * 256 := h
      omega
    simp only [ofNat, toNat, ih hdiv, UInt8.toNat_ofNat']
    omega

/-- The first `count` blocks of `size` bytes each; the last ones may be shorter. -/
def blocks (size : Nat) : (count : Nat) → Bytes → List Bytes
  | 0, _ => []
  | count + 1, bytes => bytes.take size :: blocks size count (bytes.drop size)

/-- Cuts a byte string into blocks of a positive size; only the last may be shorter. -/
def chunks (size : Nat) (bytes : Bytes) : List Bytes :=
  blocks size ((bytes.length + size - 1) / size) bytes

/-- Bytewise exclusive or, as long as the shorter of the two. -/
def xor (a b : Bytes) : Bytes := List.zipWith (· ^^^ ·) a b

/-- The lower-case hexadecimal digit of a number below 16. -/
def hexDigit (n : Nat) : Char := if n < 10 then Char.ofNat (48 + n) else Char.ofNat (87 + n)

/-- Two lower-case hexadecimal digits for each byte. -/
def toHex : Bytes → Text
  | [] => []
  | b :: rest =>
    .char (hexDigit (b.toNat / 16)) :: .char (hexDigit (b.toNat % 16)) :: toHex rest

/-- Blanks that may stand between the digit pairs of hexadecimal text. -/
def isHexBlank (c : CodePoint) : Bool :=
  c.toNat == 32 || (9 ≤ c.toNat && c.toNat ≤ 13)

/-- Reads hexadecimal text: digit pairs in either case, blanks between the pairs. -/
def ofHex? : Text → Option Bytes
  | [] => some []
  | [c] => if isHexBlank c then some [] else none
  | c :: d :: rest =>
    if isHexBlank c then ofHex? (d :: rest)
    else match c.hexDigit?, d.hexDigit? with
      | some hi, some lo => (ofHex? rest).map (UInt8.ofNat (16 * hi + lo) :: ·)
      | _, _ => none

end Bytes
end SealedPost
