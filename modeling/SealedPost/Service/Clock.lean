import SealedPost.Decimal.Binary64

/-! # The clock

A reading of the clock is a number of seconds with a fraction. Tokens see whole seconds,
the fraction cut off; the health report shows the date with microseconds, if the reading
falls into the years 1 to 9999. -/

namespace SealedPost.Service

/-- Seconds since the start of 1970 as a signed quotient. -/
structure Clock where
  negative : Bool
  num : Nat
  den : Nat

namespace Clock

/-- A whole number of seconds. -/
def ofInt (n : Int) : Clock := ⟨n < 0, n.natAbs, 1⟩

/-- A reading of double precision; what is not a number of seconds reads as zero. -/
def ofFloat (x : Binary64) : Clock :=
  match x.quotient? with
  | some (negative, num, den) => ⟨negative, num, den⟩
  | none => ⟨false, 0, 1⟩

/-- The sign of a reading before a magnitude. -/
def withSign (c : Clock) (n : Nat) : Int := if c.negative then -(n : Int) else n

/-- Whole seconds, the fraction cut off. -/
def seconds (c : Clock) : Int := c.withSign (c.num / c.den)

/-- The fraction in microseconds, rounded twice: once as a product of double precision and
once to the nearest whole number, a half to the even one. -/
def fraction (c : Clock) : Nat :=
  let rest := c.num % c.den * 1000000
  if rest = 0 then 0
  else match (Binary64.ofQuotient false rest c.den).quotient? with
    | some (_, num, den) => Binary64.roundQuotient num den
    | none => 0

/-- All microseconds. -/
def microseconds (c : Clock) : Int := c.seconds * 1000000 + c.withSign c.fraction

/-- A number in decimal digits, filled up with zeros to a width. -/
def padded (width n : Nat) : Text :=
  let digits := Text.ofNat n
  List.replicate (width - digits.length) (.char '0') ++ digits

/-- Year, month and day of a number of days since the start of 1970. Years are counted
from March, in eras of four hundred. -/
def civil (days : Int) : Int × Nat × Nat :=
  let shifted := days + 719468
  let era := shifted / 146097
  let dayOfEra := (shifted % 146097).toNat
  let yearOfEra := (dayOfEra - dayOfEra / 1460 + dayOfEra / 36524 - dayOfEra / 146096) / 365
  let dayOfYear := dayOfEra - (365 * yearOfEra + yearOfEra / 4 - yearOfEra / 100)
  let month := (5 * dayOfYear + 2) / 153
  let day := dayOfYear - (153 * month + 2) / 5 + 1
  let month := if month < 10 then month + 3 else month - 9
  (yearOfEra + era * 400 + (if month ≤ 2 then 1 else 0), month, day)

/-- Why a reading has no date. -/
inductive Fault where
  | yearOutOfRange (year : Int)
  | yearTooLarge
  | secondsTooLarge
deriving DecidableEq

/-- The wording of each fault. -/
def Fault.message : Fault → Text
  | yearOutOfRange year => "year " ++ Text.ofInt year ++ " is out of range"
  | yearTooLarge => "[Errno 75] Value too large for defined data type"
  | secondsTooLarge => "timestamp out of range for platform time_t"

/-- The first second of a year that, counted from 1900, is a signed word of 32 bits. -/
def firstSecond : Int := -67768040609740800

/-- The last second of such a year. -/
def lastSecond : Int := 67768036191676799

/-- Seconds are a signed word of 64 bits. -/
def secondsBound : Int := Nat.pow 2 63

/-- The year of a date that can be shown; a year that is told as a fault is a signed word of
32 bits. -/
def checkYear (whole year : Int) : Except Fault Nat :=
  if whole < -secondsBound ∨ secondsBound ≤ whole then .error .secondsTooLarge
  else if whole < firstSecond ∨ lastSecond < whole then .error .yearTooLarge
  else if 1 ≤ year ∧ year ≤ 9999 then .ok year.toNat
  else .error (.yearOutOfRange (Int.bmod year (Nat.pow 2 32)))

/-- The date and time in universal time; microseconds only if there are any. -/
def toText (c : Clock) : Except Fault Text :=
  let micros := c.microseconds
  let whole := micros / 1000000
  let fraction := (micros % 1000000).toNat
  let second := (whole % 86400).toNat
  let (year, month, day) := civil (whole / 86400)
  (checkYear whole year).map fun year =>
    padded 4 year ++ "-" ++ padded 2 month ++ "-" ++ padded 2 day
      ++ Text.ofString "T" ++ padded 2 (second / 3600) ++ ":" ++ padded 2 (second / 60 % 60) ++ ":"
      ++ padded 2 (second % 60)
      ++ (if fraction = 0 then [] else .char '.' :: padded 6 fraction)
      ++ Text.ofString "+00:00"

end Clock
end SealedPost.Service
