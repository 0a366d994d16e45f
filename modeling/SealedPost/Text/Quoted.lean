import SealedPost.Bytes
import SealedPost.Text.Printable

/-! # Quoted text

Error messages show the value they complain about between quotes. Single quotes are
used unless the value has single quotes and no double ones; what cannot be printed is
written as an escape of the shortest width that holds its number. -/

namespace SealedPost

/-- Lower-case hexadecimal digits, filled up with zeros to a width. -/
def Text.hex (width n : Nat) : Text :=
  let digits := (Nat.toDigits 16 n).map CodePoint.char
  List.replicate (width - digits.length) (.char '0') ++ digits

/-- An escape by number: a backslash, a letter that tells the width, the digits. -/
def Text.numericEscape (n : Nat) : Text :=
  if n < 0x100 then "\\x" ++ Text.hex 2 n
  else if n < 0x10000 then "\\u" ++ Text.hex 4 n
  else "\\U" ++ Text.hex 8 n

/-- The quote for a value: double if it has single quotes only. -/
def Text.quoteFor (t : Text) : CodePoint :=
  if .char '\'' ∈ t ∧ .char '"' ∉ t then .char '"' else .char '\''

/-- One code point inside quotes. -/
def CodePoint.quotedBy (quote c : CodePoint) : Text :=
  if c = quote ∨ c = .char '\\' then [.char '\\', c]
  else if c = .char '\t' then "\\t"
  else if c = .char '\n' then "\\n"
  else if c = .char '\r' then "\\r"
  else if c.isPrintable then [c]
  else Text.numericEscape c.toNat

/-- A text between quotes. -/
def Text.quoted (t : Text) : Text :=
  let quote := t.quoteFor
  quote :: t.flatMap (CodePoint.quotedBy quote) ++ [quote]

/-- A byte string between quotes, after the letter b; bytes outside ASCII are escaped. -/
def Bytes.quoted (bytes : Bytes) : Text :=
  let text := bytes.map fun b => CodePoint.ofNat b.toNat
  let quote := Text.quoteFor text
  let one (c : CodePoint) : Text :=
    if c.isAscii then CodePoint.quotedBy quote c else Text.numericEscape c.toNat
  .char 'b' :: quote :: text.flatMap one ++ [quote]

/-- A byte string in a mutable buffer: as a byte string inside the word for buffers, except
that single quotes are escaped between double ones too. -/
def Bytes.quotedBuffer (bytes : Bytes) : Text :=
  let text := bytes.map fun b => CodePoint.ofNat b.toNat
  let quote := Text.quoteFor text
  let one (c : CodePoint) : Text :=
    if c.isAscii then CodePoint.quotedBy (.char '\'') c else Text.numericEscape c.toNat
  "bytearray(b" ++ [quote] ++ text.flatMap one ++ [quote] ++ ")"

end SealedPost
