import SealedPost.Bytes
import SealedPost.Decimal.Shortest
import SealedPost.Json.Value
import SealedPost.Text.Surrogates

/-! # Writing JSON

One writer for all documents; a style says how neighbours are set apart and whether
characters outside ASCII are escaped. Quotes, backslashes and control characters are
escaped in every style. -/

namespace SealedPost.Json

/-- How a document is laid out. -/
structure Style where
  itemSeparator : Text
  nameSeparator : Text
  asciiOnly : Bool

/-- No blanks, characters as they are. -/
def Style.compact : Style := ⟨",", ":", false⟩

/-- A blank after each separator, ASCII only. -/
def Style.spaced : Style := ⟨", ", ": ", true⟩

/-- An escape by the number of a UTF-16 unit. -/
def unitEscape (n : Nat) : Text :=
  let digit (k : Nat) : CodePoint := .char (Bytes.hexDigit (n / k % 16))
  [.char '\\', .char 'u', digit 4096, digit 256, digit 16, digit 1]

/-- A code point outside ASCII as one escape, or as two for a surrogate pair. -/
def wideEscape (n : Nat) : Text :=
  if n < 0x10000 then unitEscape n
  else
    unitEscape (0xD800 + (n - 0x10000) / 1024) ++ unitEscape (0xDC00 + (n - 0x10000) % 1024)

/-- One code point inside a string. -/
def writeCodePoint (s : Style) (c : CodePoint) : Text :=
  if c = .char '"' then "\\\""
  else if c = .char '\\' then "\\\\"
  else if c = .char '\n' then "\\n"
  else if c = .char '\r' then "\\r"
  else if c = .char '\t' then "\\t"
  else if c = .char '\x08' then "\\b"
  else if c = .char '\x0c' then "\\f"
  else if c.toNat < 0x20 then unitEscape c.toNat
  else if s.asciiOnly && 0x7F ≤ c.toNat then wideEscape c.toNat
  else [c]

/-- A string between quotes. -/
def writeString (s : Style) (t : Text) : Text :=
  .char '"' :: t.flatMap (writeCodePoint s) ++ [.char '"']

/-- A number of double precision; the special ones are words. -/
def writeFloat : Binary64 → Text
  | .nan => "NaN"
  | .infinite negative => if negative then "-Infinity" else "Infinity"
  | x => x.toText

mutual

/-- A document. -/
def write (s : Style) : Json → Text
  | .null => "null"
  | .bool b => if b then "true" else "false"
  | .int n => Text.ofInt n
  | .float x => writeFloat x
  | .str t => writeString s t
  | .arr items => .char '[' :: writeItems s items ++ [.char ']']
  | .obj members => .char '{' :: writeMembers s members ++ [.char '}']

/-- The items of an array with separators between them. -/
def writeItems (s : Style) : List Json → Text
  | [] => []
  | [v] => write s v
  | v :: w :: rest => write s v ++ s.itemSeparator ++ writeItems s (w :: rest)

/-- The members of an object with separators between them. -/
def writeMembers (s : Style) : List (Text × Json) → Text
  | [] => []
  | [(name, v)] => writeString s name ++ s.nameSeparator ++ write s v
  | (name, v) :: m :: rest =>
    writeString s name ++ s.nameSeparator ++ write s v ++ s.itemSeparator
      ++ writeMembers s (m :: rest)

end

/-- A document without blanks. -/
def writeCompact (v : Json) : Text := write .compact v

mutual

/-- The strings of a document, names included, in the order in which they are written. -/
def strings : Json → List Text
  | .str t => [t]
  | .arr items => itemStrings items
  | .obj members => memberStrings members
  | _ => []

/-- The strings of the items of an array. -/
def itemStrings : List Json → List Text
  | [] => []
  | v :: rest => strings v ++ itemStrings rest

/-- The strings of the members of an object. -/
def memberStrings : List (Text × Json) → List Text
  | [] => []
  | (name, v) :: rest => name :: strings v ++ memberStrings rest

end

/-- A document without blanks that is to be encoded; the first lone surrogate in its
strings refuses it. -/
def writeEncodable (v : Json) : Except SurrogateRun Text :=
  match (strings v).findSome? (Text.surrogateRun? CodePoint.isSurrogate) with
  | some run => .error run
  | none => .ok (writeCompact v)

/-- The wording for a document that cannot be encoded. -/
def unwritableMessage (run : SurrogateRun) : Text :=
  "Error serializing to JSON: UnicodeEncodeError: " ++ run.message

end SealedPost.Json
