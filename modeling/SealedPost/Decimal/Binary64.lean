import SealedPost.Text.Basic

/-! # Numbers with a binary point

A number of double precision is kept exactly, as a mantissa below 2^53 times a power of
two. Reading a decimal rounds to the nearest such number, to the even mantissa when two
are equally near, by exact integer arithmetic. -/

namespace SealedPost

/-- A number of double precision: mantissa times 2^exponent with a sign, an infinity, or
not a number. -/
inductive Binary64 where
  | finite (negative : Bool) (mantissa : Nat) (exponent : Int)
  | infinite (negative : Bool)
  | nan
deriving DecidableEq

namespace Binary64

/-- The quotient rounded to the nearest integer, a half to the even neighbour. -/
def roundQuotient (num den : Nat) : Nat :=
  let q := num / den
  let twice := 2 * (num % den)
  if twice < den then q
  else if den < twice then q + 1
  else q + q % 2

/-- The exponent of the highest power of two that is not above a positive quotient. -/
def floorLog2 (num den : Nat) : Int :=
  let guess : Int := (num.log2 : Int) - (den.log2 : Int)
  let reached : Bool :=
    if 0 ≤ guess then den * Nat.pow 2 guess.toNat ≤ num else den ≤ num * Nat.pow 2 (-guess).toNat
  if reached then guess else guess - 1

/-- The number nearest to a positive quotient. -/
def ofQuotient (negative : Bool) (num den : Nat) : Binary64 :=
  let exponent : Int := max (floorLog2 num den - 52) (-1074)
  let mantissa :=
    if 0 ≤ exponent then roundQuotient num (den * Nat.pow 2 exponent.toNat)
    else roundQuotient (num * Nat.pow 2 (-exponent).toNat) den
  let (mantissa, exponent) :=
    if mantissa = Nat.pow 2 53 then (Nat.pow 2 52, exponent + 1) else (mantissa, exponent)
  if 971 < exponent then infinite negative else finite negative mantissa exponent

/-- The number nearest to digits times 10^exponent. Exponents far outside the range are
decided without writing the power out. -/
def ofDecimal (negative : Bool) (digits : Nat) (exponent : Int) : Binary64 :=
  if digits = 0 then finite negative 0 0
  else
    let top : Int := (Nat.toDigits 10 digits).length + exponent
    if 400 < top then infinite negative
    else if top < -400 then finite negative 0 0
    else if 0 ≤ exponent then ofQuotient negative (digits * Nat.pow 10 exponent.toNat) 1
    else ofQuotient negative digits (Nat.pow 10 (-exponent).toNat)

/-- The integer next to a number in the direction of zero; none for the rest. -/
def truncate? : Binary64 → Option Int
  | finite negative mantissa exponent =>
    let size :=
      if 0 ≤ exponent then mantissa * Nat.pow 2 exponent.toNat
      else mantissa / Nat.pow 2 (-exponent).toNat
    some (if negative then -(size : Int) else size)
  | _ => none

/-- Holds for a finite number without a fraction. -/
def isIntegral : Binary64 → Bool
  | finite _ mantissa exponent =>
    0 ≤ exponent || mantissa % Nat.pow 2 (-exponent).toNat == 0
  | _ => false

/-- Holds for zero of either sign. -/
def isZero : Binary64 → Bool
  | finite _ mantissa _ => mantissa == 0
  | _ => false

/-- A finite number as a sign and a quotient of natural numbers. -/
def quotient? : Binary64 → Option (Bool × Nat × Nat)
  | finite negative mantissa exponent =>
    some <|
      if 0 ≤ exponent then (negative, mantissa * Nat.pow 2 exponent.toNat, 1)
      else (negative, mantissa, Nat.pow 2 (-exponent).toNat)
  | _ => none

end Binary64
end SealedPost
