import SealedPost.Decimal.Binary64

/-! # Shortest decimals

The decimal written for a number of double precision is the one with the fewest digits
that reads back as that number and, of those, the nearest one; of two that are equally
near, the one whose last digit is even. The search goes over one to seventeen digits and
tests the two neighbours of the number on each decimal grid in exact arithmetic. -/

namespace SealedPost.Binary64

/-- A positive number by its quotient, with the bounds of the reals that round to it;
`closed` says that the bounds themselves round to it. -/
structure Interval where
  value : Nat × Nat
  low : Nat × Nat
  high : Nat × Nat
  closed : Bool

/-- The quotient mantissa times 2^exponent. -/
def scaled (mantissa : Nat) (exponent : Int) : Nat × Nat :=
  if 0 ≤ exponent then (mantissa * Nat.pow 2 exponent.toNat, 1)
  else (mantissa, Nat.pow 2 (-exponent).toNat)

/-- The interval of a positive number; below a power of two the gap is half as wide. -/
def interval (mantissa : Nat) (exponent : Int) : Interval where
  value := scaled mantissa exponent
  low :=
    if mantissa = Nat.pow 2 52 ∧ -1074 < exponent then scaled (4 * mantissa - 1) (exponent - 2)
    else scaled (2 * mantissa - 1) (exponent - 1)
  high := scaled (2 * mantissa + 1) (exponent - 1)
  closed := mantissa % 2 = 0

/-- The order of quotients. -/
def le (a b : Nat × Nat) : Bool := a.1 * b.2 ≤ b.1 * a.2

/-- Holds for a quotient that rounds to the number of the interval. -/
def Interval.contains (i : Interval) (q : Nat × Nat) : Bool :=
  if i.closed then le i.low q && le q i.high else !le q i.low && !le i.high q

/-- The distance of two quotients. -/
def distance (a b : Nat × Nat) : Nat × Nat :=
  (max (a.1 * b.2) (b.1 * a.2) - min (a.1 * b.2) (b.1 * a.2), a.2 * b.2)

/-- Digits times 10^exponent as a quotient. -/
def decimal (digits : Nat) (exponent : Int) : Nat × Nat :=
  if 0 ≤ exponent then (digits * Nat.pow 10 exponent.toNat, 1)
  else (digits, Nat.pow 10 (-exponent).toNat)

/-- The exponent of the highest power of ten that is not above a positive quotient. -/
def floorLog10 (q : Nat × Nat) : Int :=
  let guess : Int := ((Nat.toDigits 10 q.1).length : Int) - (Nat.toDigits 10 q.2).length
  if le (decimal 1 guess) q then guess else guess - 1

/-- The digits of the neighbour below a quotient on the grid of multiples of 10^exponent. -/
def below (q : Nat × Nat) (exponent : Int) : Nat :=
  if 0 ≤ exponent then q.1 / (q.2 * Nat.pow 10 exponent.toNat)
  else q.1 * Nat.pow 10 (-exponent).toNat / q.2

/-- The nearer of the two neighbours on a grid, if it rounds to the number, and the even
one if both are equally near. -/
def Interval.nearest? (i : Interval) (exponent : Int) : Option Nat :=
  let down := below i.value exponent
  let up := down + 1
  let lower := decimal down exponent
  let upper := decimal up exponent
  match i.contains lower, i.contains upper with
  | true, true =>
    let toLower := distance lower i.value
    let toUpper := distance upper i.value
    if !le toUpper toLower then some down
    else if !le toLower toUpper then some up
    else some (down + down % 2)
  | true, false => some down
  | false, true => some up
  | false, false => none

/-- The first grid with a hit, starting from `count` digits and trying `tries` grids. -/
def Interval.search (i : Interval) (top : Int) : (tries count : Nat) → Nat × Int
  | 0, count => (below i.value (top - count), top - count)
  | tries + 1, count =>
    let exponent := top + 1 - count
    match i.nearest? exponent with
    | some digits => (digits, exponent)
    | none => i.search top tries (count + 1)

/-- Drops zeros at the end of the digits, at most `fuel` of them. -/
def dropZeros : (fuel digits : Nat) → Int → Nat × Int
  | 0, digits, exponent => (digits, exponent)
  | fuel + 1, digits, exponent =>
    if digits % 10 = 0 then dropZeros fuel (digits / 10) (exponent + 1)
    else (digits, exponent)

/-- The shortest decimal of a positive number: digits and the exponent of ten. -/
def shortest (mantissa : Nat) (exponent : Int) : Nat × Int :=
  let i := interval mantissa exponent
  let (digits, power) := i.search (floorLog10 i.value) 17 1
  dropZeros 17 digits power

/-- The point stands among the digits if it falls between three zeros before them and
the sixteenth place after their start; otherwise a power of ten follows them. -/
def layout (digits : Nat) (exponent : Int) : Text :=
  let figures := (Nat.toDigits 10 digits).map CodePoint.char
  let zeros (n : Nat) : Text := List.replicate n (.char '0')
  let point : Int := figures.length + exponent
  if -4 < point ∧ point ≤ 16 then
    if point ≤ 0 then "0." ++ zeros (-point).toNat ++ figures
    else if 0 ≤ exponent then figures ++ zeros exponent.toNat ++ ".0"
    else figures.take point.toNat ++ "." ++ figures.drop point.toNat
  else
    let power := point - 1
    let size := Text.ofNat power.natAbs
    figures.take 1
      ++ (if figures.length = 1 then [] else .char '.' :: figures.drop 1)
      ++ (if power < 0 then "e-" else "e+") ++ zeros (2 - size.length) ++ size

/-- The text of a number of double precision. -/
def toText : Binary64 → Text
  | finite negative mantissa exponent =>
    let sign : Text := if negative then "-" else []
    if mantissa = 0 then sign ++ "0.0"
    else
      let (digits, power) := shortest mantissa exponent
      sign ++ layout digits power
  | infinite negative => if negative then "-inf" else "inf"
  | nan => "nan"

end SealedPost.Binary64
