/-! # Text that may hold lone surrogates

A text is a list of code points. A code point is a character, or a surrogate that
stands alone: such a surrogate can be written in a JSON escape and in a command
line argument, although no encoding of Unicode has it. Everything the library
reads or writes as text has this type, so no input has to be turned away early. -/

namespace SealedPost

/-- A character, or one half of a surrogate pair that stands alone. -/
inductive CodePoint where
  | char (c : Char)
  | surrogate (unit : Fin 2048)
deriving DecidableEq

/-- A text is a list of code points. -/
abbrev Text := List CodePoint

namespace CodePoint

/-- The number of a code point, surrogates included. -/
def toNat : CodePoint → Nat
  | char c => c.toNat
  | surrogate u => 0xD800 + u.val

/-- The code point with a given number; a number past the last one gives U+FFFD. -/
def ofNat (n : Nat) : CodePoint :=
  if n.isValidChar then char (Char.ofNat n)
  else if h : n - 0xD800 < 2048 then surrogate ⟨n - 0xD800, h⟩
  else char '\uFFFD'

theorem ofNat_toNat_char (c : Char) : ofNat (char c).toNat = char c := by
  have h : c.toNat.isValidChar := c.valid
  rw [toNat, ofNat, if_pos h, Char.ofNat_toNat]

/-- The character that a code point is, if it is one. -/
def toChar? : CodePoint → Option Char
  | char c => some c
  | surrogate _ => none

/-- Holds for a surrogate that stands alone. -/
def isSurrogate : CodePoint → Bool
  | char _ => false
  | surrogate _ => true

/-- Holds for the 128 characters of ASCII. -/
def isAscii (c : CodePoint) : Bool := c.toNat < 128

/-- The letters A to Z become a to z; nothing else changes. -/
def asciiLower : CodePoint → CodePoint
  | char c => char (if 'A' ≤ c ∧ c ≤ 'Z' then Char.ofNat (c.toNat + 32) else c)
  | c => c

/-- The value of one of the digits 0 to 9. -/
def asciiDigit? : CodePoint → Option Nat
  | char c => if '0' ≤ c ∧ c ≤ '9' then some (c.toNat - 48) else none
  | surrogate _ => none

/-- The value of a hexadecimal digit in either case. -/
def hexDigit? : CodePoint → Option Nat
  | char c =>
    if '0' ≤ c ∧ c ≤ '9' then some (c.toNat - 48)
    else if 'a' ≤ c ∧ c ≤ 'f' then some (c.toNat - 87)
    else if 'A' ≤ c ∧ c ≤ 'F' then some (c.toNat - 55)
    else none
  | surrogate _ => none

end CodePoint

namespace Text

/-- The text of a string: all of its characters. -/
def ofString (s : String) : Text := s.toList.map CodePoint.char

instance : Coe String Text := ⟨ofString⟩

/-- The text between the separators, of which there is one piece more than separators. -/
def splitOn (sep : CodePoint) : Text → List Text
  | [] => [[]]
  | c :: rest =>
    if c = sep then [] :: splitOn sep rest
    else match splitOn sep rest with
      | [] => [[c]]
      | piece :: pieces => (c :: piece) :: pieces

theorem splitOn_of_not_mem {sep : CodePoint} {t : Text} (h : sep ∉ t) :
    splitOn sep t = [t] := by
  induction t with
  | nil => rfl
  | cons c rest ih =>
    rw [List.mem_cons, not_or] at h
    simp [splitOn, Ne.symm h.1, ih h.2]

theorem splitOn_append_cons {sep : CodePoint} {t : Text} (rest : Text) (h : sep ∉ t) :
    splitOn sep (t ++ sep :: rest) = t :: splitOn sep rest := by
  induction t with
  | nil => simp [splitOn]
  | cons c t ih =>
    rw [List.mem_cons, not_or] at h
    simp [splitOn, Ne.symm h.1, ih h.2]

/-- What stands before the first separator and what stands after it, if there is one. -/
def cutAt (sep : CodePoint) : Text → Option (Text × Text)
  | [] => none
  | c :: rest =>
    if c = sep then some ([], rest)
    else (cutAt sep rest).map fun parts => (c :: parts.1, parts.2)

theorem cutAt_append_cons {sep : CodePoint} {t : Text} (rest : Text) (h : sep ∉ t) :
    cutAt sep (t ++ sep :: rest) = some (t, rest) := by
  induction t with
  | nil => simp [cutAt]
  | cons c t ih =>
    rw [List.mem_cons, not_or] at h
    simp [cutAt, Ne.symm h.1, ih h.2]

/-- The pieces in order with a separator between neighbours. -/
def joinWith (sep : Text) : List Text → Text
  | [] => []
  | [t] => t
  | t :: rest => t ++ sep ++ joinWith sep rest

/-- Cuts a class of code points off both ends. -/
def trimBy (blank : CodePoint → Bool) (t : Text) : Text :=
  ((t.dropWhile blank).reverse.dropWhile blank).reverse

/-- Holds for a text without lone surrogates: every encoding of Unicode has it. -/
def isEncodable (t : Text) : Bool := t.all fun c => !c.isSurrogate

/-- The order of texts by the numbers of their code points. -/
def le : Text → Text → Bool
  | [], _ => true
  | _ :: _, [] => false
  | a :: s, b :: t => a.toNat < b.toNat || (a.toNat == b.toNat && le s t)

/-- A natural number in decimal digits. -/
def ofNat (n : Nat) : Text := (Nat.toDigits 10 n).map CodePoint.char

/-- An integer in decimal digits, a minus sign before a negative one. -/
def ofInt : Int → Text
  | .ofNat n => ofNat n
  | .negSucc n => .char '-' :: ofNat (n + 1)

end Text
end SealedPost
