import SealedPost.Text.Blank
import SealedPost.Text.Digits

/-! # Integers in text

An integer in text has digits of any script with single underscores between them, one
sign before it, and blanks around it. More than 4300 digits are refused. -/

namespace SealedPost.Text

/-- Digits with single underscores between them: their count and their value. -/
def readDigits : (afterDigit : Bool) → (count value : Nat) → Text → Option (Nat × Nat)
  | afterDigit, count, value, [] => if afterDigit then some (count, value) else none
  | afterDigit, count, value, c :: rest =>
    if c = .char '_' then if afterDigit then readDigits false count value rest else none
    else match c.decimal? with
      | some d => readDigits true (count + 1) (10 * value + d) rest
      | none => none

/-- The sign before a number, positive if there is none, and what follows it. -/
def splitSign : Text → Bool × Text
  | .char '+' :: rest => (false, rest)
  | .char '-' :: rest => (true, rest)
  | t => (false, t)

/-- The greatest number of digits that is read. -/
def digitLimit : Nat := 4300

/-- A magnitude with its sign. -/
def signed (negative : Bool) (magnitude : Nat) : Int :=
  if negative then -(magnitude : Int) else magnitude

/-- Blanks around an integer: those of ASCII without the information separators, and all
blanks outside ASCII. -/
def isIntegerBlank (c : CodePoint) : Bool :=
  let n := c.toNat
  n == 32 || (9 ≤ n && n ≤ 13) || (127 < n && c.isBlank)

/-- The integer that a text stands for, if it stands for one. -/
def toInt? (t : Text) : Option Int :=
  let (negative, rest) := splitSign (trimBy isIntegerBlank t)
  match readDigits false 0 0 rest with
  | some (count, value) => if count ≤ digitLimit then some (signed negative value) else none
  | none => none

end SealedPost.Text
