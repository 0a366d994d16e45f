import SealedPost.Crypto.Curve25519
import SealedPost.Crypto.Sha512

/-! # Verifying Ed25519 signatures

The check is the one without cofactor: the first half of the signature is computed again
from the second and compared byte by byte. Keys must be written canonically; keys and
first halves of small order and scalars above the group order are refused. -/

namespace SealedPost.Crypto.Ed25519

open Field25519

/-- The order of the group of the base point. -/
def order : Nat := Nat.pow 2 252 + 27742317777372353535851937790883648493

/-- The constant d of the curve -x^2 + y^2 = 1 + d x^2 y^2. -/
def curveConstant : Nat :=
  37095705934669439343138083508754565189542113879843219016388785533085940283555

/-- A square root of -1. -/
def rootOfMinusOne : Nat :=
  19681161376707505956807079304988542015446066515923890162744021073123829784752

/-- A point with x = X/Z, y = Y/Z and xy = T/Z. -/
structure Point where
  x : Nat
  y : Nat
  z : Nat
  t : Nat

/-- The neutral point. -/
def neutral : Point := ⟨0, 1, 1, 0⟩

/-- The point with given coordinates. -/
def affine (x y : Nat) : Point := ⟨x, y, 1, mul x y⟩

/-- The base point. -/
def base : Point :=
  affine
    15112221349535400772501151409588531511454012693041857206046113283949847762202
    46316835694926478169428394003475163141307993866256225615783033603165251855960

/-- The sum of two points, equal ones included. -/
def Point.add (p q : Point) : Point :=
  let a := mul (sub p.y p.x) (sub q.y q.x)
  let b := mul (Field25519.add p.y p.x) (Field25519.add q.y q.x)
  let c := mul (mul 2 (mul p.t q.t)) curveConstant
  let d := mul 2 (mul p.z q.z)
  let e := sub b a
  let f := sub d c
  let g := Field25519.add d c
  let h := Field25519.add b a
  ⟨mul e f, mul g h, mul f g, mul e h⟩

/-- The negative of a point. -/
def Point.negate (p : Point) : Point := ⟨sub 0 p.x, p.y, p.z, sub 0 p.t⟩

/-- The sum of the multiples of two points, over the bits of both scalars at once. -/
def combine (p q : Point) (scalars : List (Bool × Bool)) : Point :=
  scalars.foldl (fun acc (first, second) =>
    let acc := acc.add acc
    let acc := if first then acc.add p else acc
    if second then acc.add q else acc) neutral

/-- The bytes of a point: y, with the parity of x in the top bit. -/
def Point.bytes (p : Point) : Bytes :=
  let inverted := inverse p.z
  let x := mul p.x inverted
  let y := mul p.y inverted
  Bytes.ofNat 32 (y + x % 2 * Nat.pow 2 255)

/-- The number in the 255 low bits of 32 bytes. -/
def lowBits (bytes : Bytes) : Nat := Bytes.toNat bytes % Nat.pow 2 255

/-- The point that 32 bytes stand for, if there is one. -/
def point? (bytes : Bytes) : Option Point :=
  let y := lowBits bytes % modulus
  let sign := Bytes.toNat bytes / Nat.pow 2 255 % 2
  let u := sub (mul y y) 1
  let v := Field25519.add (mul curveConstant (mul y y)) 1
  let v3 := mul v (mul v v)
  let root := power (mul u (mul v (mul v3 v3))) (bits 252 (Nat.pow 2 252 - 3))
  let x := mul (mul u v3) root
  let square := mul v (mul x x)
  let candidate : Option Nat :=
    if square = u then some x
    else if square = sub 0 u then some (mul x rootOfMinusOne)
    else none
  candidate.map fun x => affine (if x % 2 = sign then x else sub 0 x) y

/-- The second coordinates of the points of small order, in every form that fits in 255 bits. -/
def smallOrderForms : List Nat := [
  0, 1, modulus - 1, modulus, modulus + 1,
  2707385501144840649318225287225658788936804267575313519463743609750303402022,
  55188659117513257062467267217118295137698188065244968500265048394206261417927]

/-- Holds for the bytes of a point of small order. -/
def hasSmallOrder (bytes : Bytes) : Bool := smallOrderForms.contains (lowBits bytes)

/-- The scalar of a digest. -/
def challenge (firstHalf key message : Bytes) : Nat :=
  Bytes.toNat (Sha512.digest (firstHalf ++ key ++ message)) % order

/-- Whether a signature of 64 bytes is one of a message under a key of 32 bytes. -/
def verify (key message signature : Bytes) : Bool :=
  let firstHalf := signature.take 32
  let scalar := Bytes.toNat (signature.drop 32)
  if key.length ≠ 32 ∨ signature.length ≠ 64 ∨ order ≤ scalar ∨ hasSmallOrder firstHalf ∨
      modulus ≤ lowBits key ∨ hasSmallOrder key then false
  else match point? key with
    | none => false
    | some p =>
      let scalars := (bits 253 scalar).zip (bits 253 (challenge firstHalf key message))
      (combine base p.negate scalars).bytes == firstHalf

end SealedPost.Crypto.Ed25519
