import SealedPost.Bytes

/-! # Poly1305

The authenticator reads the message as numbers of up to sixteen bytes with a one above
the highest byte, and evaluates the polynomial that they form at a secret point modulo
2^130 - 5. -/

namespace SealedPost.Crypto.Poly1305

/-- The modulus. -/
def modulus : Nat := Nat.pow 2 130 - 5

/-- The bits of the point that may be set. -/
def pointMask : Nat := 0x0ffffffc0ffffffc0ffffffc0fffffff

/-- The point: the first half of the key with some bits cleared. -/
def point (key : Bytes) : Nat := Bytes.toNat (key.take 16) &&& pointMask

/-- The polynomial so far with one block more. -/
def absorb (point sum : Nat) (block : Bytes) : Nat :=
  (sum + Bytes.toNat (block ++ [1])) * point % modulus

/-- The tag of 16 bytes for a message under a key of 32 bytes. -/
def tag (key message : Bytes) : Bytes :=
  let sum := (Bytes.chunks 16 message).foldl (absorb (point key)) 0
  Bytes.ofNat 16 (sum + Bytes.toNat (key.drop 16))

theorem length_tag (key message : Bytes) : (tag key message).length = 16 := by
  simp [tag]

end SealedPost.Crypto.Poly1305
