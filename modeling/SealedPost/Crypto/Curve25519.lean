import SealedPost.Bytes

/-! # The field modulo 2^255 - 19 and key agreement over it

Numbers below the modulus stand for the elements. A scalar and the first coordinate of a
point of the curve y^2 = x^3 + 486662 x^2 + x give the coordinate of the multiple by a
ladder over the bits of the scalar. Agreement is refused if the result is zero, as it is
for the points of small order. -/

namespace SealedPost.Crypto

namespace Field25519

/-- The modulus. -/
def modulus : Nat := Nat.pow 2 255 - 19

/-- Sum. -/
def add (a b : Nat) : Nat := (a + b) % modulus

/-- Difference of elements. -/
def sub (a b : Nat) : Nat := (a + (modulus - b)) % modulus

/-- Product. -/
def mul (a b : Nat) : Nat := a * b % modulus

/-- The bits of a number, the highest first. -/
def bits (width n : Nat) : List Bool := (List.range width).reverse.map n.testBit

/-- The power whose exponent has the given bits. -/
def power (a : Nat) (exponent : List Bool) : Nat :=
  exponent.foldl (fun acc bit =>
    let square := mul acc acc
    if bit then mul square a else square) 1

/-- The inverse; zero has none and gives zero. -/
def inverse (a : Nat) : Nat := power a (bits 255 (modulus - 2))

end Field25519

namespace X25519

open Field25519

/-- The scalar of a secret key: a multiple of eight with its top bit set. -/
def scalar (secret : Bytes) : Nat := Bytes.toNat secret % Nat.pow 2 254 / 8 * 8 + Nat.pow 2 254

/-- The coordinate that 32 bytes stand for; their top bit does not count. -/
def coordinate (bytes : Bytes) : Nat := Bytes.toNat bytes % Nat.pow 2 255 % modulus

/-- Two neighbouring multiples of a point as fractions. -/
structure Ladder where
  x2 : Nat
  z2 : Nat
  x3 : Nat
  z3 : Nat

/-- From the multiples n and n + 1 to 2n and 2n + 1. -/
def Ladder.double (u : Nat) (l : Ladder) : Ladder :=
  let sum := add l.x2 l.z2
  let difference := sub l.x2 l.z2
  let squareSum := mul sum sum
  let squareDifference := mul difference difference
  let e := sub squareSum squareDifference
  let da := mul (sub l.x3 l.z3) sum
  let cb := mul (add l.x3 l.z3) difference
  let total := add da cb
  let rest := sub da cb
  { x2 := mul squareSum squareDifference
    z2 := mul e (add squareSum (mul 121665 e))
    x3 := mul total total
    z3 := mul u (mul rest rest) }

/-- The two multiples in the other order. -/
def Ladder.swap (l : Ladder) : Ladder := ⟨l.x3, l.z3, l.x2, l.z2⟩

/-- One bit of the scalar. -/
def Ladder.step (u : Nat) (l : Ladder) (bit : Bool) : Ladder :=
  if bit then (l.swap.double u).swap else l.double u

/-- The coordinate of a multiple of a point. -/
def multiply (n u : Nat) : Nat :=
  let l := (bits 255 n).foldl (Ladder.step u) ⟨1, 0, u, 1⟩
  mul l.x2 (inverse l.z2)

/-- The public key of a secret key: the multiple of the point with coordinate nine. -/
def publicKey (secret : Bytes) : Bytes := Bytes.ofNat 32 (multiply (scalar secret) 9)

theorem length_publicKey (secret : Bytes) : (publicKey secret).length = 32 := by
  simp [publicKey]

/-- The shared secret of a secret key and the other side's public key; none if it is zero. -/
def agree? (secret peer : Bytes) : Option Bytes :=
  let shared := multiply (scalar secret) (coordinate peer)
  if shared = 0 then none else some (Bytes.ofNat 32 shared)

end X25519
end SealedPost.Crypto
