import SealedPost.Text.Integer

/-! # Integers in fields

A field takes an integer as a plain numeral: a minus sign or none, then one zero, or
digits of which the first is not zero. More loosely written text is first made plain:
blanks around it, a sign, zeros before the number, a fraction of zeros and single
underscores are taken away. A text is too long if it starts with more digits of a plain
numeral than are read; everything else that does not become one is malformed. -/

namespace SealedPost.Text

/-- Why a text is no integer of a field. -/
inductive IntegerFault where
  | malformed
  | tooLong
deriving DecidableEq

/-- Whether a minus sign stands before a text, and what follows it. -/
def splitMinus : Text → Bool × Text
  | .char '-' :: rest => (true, rest)
  | t => (false, t)

/-- The number whose first digits have a given value and whose further ones are the text. -/
def appendDigits? : (value : Nat) → Text → Option Nat
  | value, [] => some value
  | value, c :: rest => c.asciiDigit?.bind fun d => appendDigits? (10 * value + d) rest

/-- The integer of a plain numeral. -/
def plainInteger? (t : Text) : Option Int :=
  let (negative, digits) := splitMinus t
  if digits.isEmpty || digitLimit < digits.length then none
  else if digits.head? = some (.char '0') && 1 < digits.length then none
  else (appendDigits? 0 digits).map (signed negative)

/-- Holds for a text that starts with more digits of a plain numeral than are read. -/
def startsTooLong (t : Text) : Bool :=
  let digits := (splitMinus t).2.takeWhile fun c => c.asciiDigit?.isSome
  digits.head? ≠ some (.char '0') && digitLimit < digits.length

/-- Passes over the zeros before a number, and over underscores among them, up to its first
digit, its minus sign or its point; a zero before the point stays, and so does the last
code point if nothing follows. -/
def skipZeros (last : CodePoint) : Text → Option Text
  | [] => some [last]
  | c :: rest =>
    if c = .char '0' ∨ c = .char '_' then skipZeros c rest
    else if c = .char '-' ∨ c.asciiDigit?.isSome then some (c :: rest)
    else if c = .char '.' then some (last :: c :: rest)
    else none

/-- A number without the zeros before it; it must start with a digit. -/
def dropLeadingZeros? : Text → Option Text
  | [] => none
  | c :: rest =>
    if c = .char '0' then skipZeros c rest
    else if c.asciiDigit?.isSome then some (c :: rest)
    else none

/-- Holds for a text of zeros, at least one. -/
def isZeros (t : Text) : Bool := !t.isEmpty && t.all (· = .char '0')

/-- A number without its fraction, which must be one of zeros if there is one. -/
def dropFraction? (t : Text) : Option Text :=
  match cutAt (.char '.') t with
  | none => some t
  | some (whole, fraction) => if isZeros fraction then some whole else none

/-- Holds if each underscore of a text stands between two other code points; `inside` says
that one stands before the text. -/
def isJoined : (inside : Bool) → Text → Bool
  | inside, [] => inside
  | inside, c :: rest => if c = .char '_' then inside && isJoined false rest else isJoined true rest

/-- A number without the underscores in it. -/
def dropUnderscores? (t : Text) : Option Text :=
  if isJoined false t then some (t.filter (· ≠ .char '_')) else none

/-- A text in which the number is written as a plain numeral. -/
def toPlain? (t : Text) : Option Text :=
  let (negative, rest) := splitSign (trimBy CodePoint.isWhite t)
  (((dropLeadingZeros? rest).bind dropFraction?).bind dropUnderscores?).map fun number =>
    if negative then .char '-' :: number else number

/-- The integer of a field. -/
def fieldInteger (t : Text) : Except IntegerFault Int :=
  if startsTooLong t then .error .tooLong
  else match (toPlain? t).bind plainInteger? with
    | some n => .ok n
    | none => .error .malformed

end SealedPost.Text
