import SealedPost.Decimal.Shortest
import SealedPost.Json.Value
import SealedPost.Text.Integer
import SealedPost.Text.Quoted

/-! # Values as text

An account or an identifier in a token should be a string, but any value is taken by its
text: a string as it is, anything else as it would be shown, with strings inside quoted. -/

namespace SealedPost.Json

/-- The text of a value without parts. -/
def shownAtom : Json → Text
  | .null => "None"
  | .bool b => if b then "True" else "False"
  | .int n => Text.ofInt n
  | .float x => x.toText
  | .str t => Text.quoted t
  | _ => []

mutual

/-- A value as it is shown inside another. -/
def shown : Json → Text
  | .arr items => .char '[' :: shownItems items ++ [.char ']']
  | .obj members => .char '\x7b' :: shownMembers members ++ [.char '\x7d']
  | .null => shownAtom .null
  | .bool b => shownAtom (.bool b)
  | .int n => shownAtom (.int n)
  | .float x => shownAtom (.float x)
  | .str t => shownAtom (.str t)

/-- Items with separators between them. -/
def shownItems : List Json → Text
  | [] => []
  | [v] => shown v
  | v :: w :: rest => shown v ++ ", " ++ shownItems (w :: rest)

/-- Members with separators between them. -/
def shownMembers : List (Text × Json) → Text
  | [] => []
  | [(name, v)] => Text.quoted name ++ ": " ++ shown v
  | (name, v) :: m :: rest =>
    Text.quoted name ++ ": " ++ shown v ++ ", " ++ shownMembers (m :: rest)

end

/-- The text of a value. -/
def asText : Json → Text
  | .str t => t
  | v => shown v

/-- The word for the kind of a value. -/
def kindName : Json → Text
  | .null => "NoneType"
  | .bool _ => "bool"
  | .int _ => "int"
  | .float _ => "float"
  | .str _ => "str"
  | .arr _ => "list"
  | .obj _ => "dict"

/-- The parts of a value that has parts: items, the names of members, or code points. -/
def parts? : Json → Option (List Json)
  | .arr items => some items
  | .obj members => some (members.map fun m => .str m.1)
  | .str t => some (t.map fun c => .str [c])
  | _ => none

/-- Holds for the values that count as absent: null, false, zeros and what is empty. -/
def isEmptyValue : Json → Bool
  | .null => true
  | .bool b => !b
  | .int n => n == 0
  | .float x => x.isZero
  | .str t => t.isEmpty
  | .arr items => items.isEmpty
  | .obj members => members.isEmpty

/-- A value as an integer: a truth value as 0 or 1, a number without its fraction, a text
that is an integer in any script. -/
def toInt? : Json → Option Int
  | .int n => some n
  | .bool b => some (if b then 1 else 0)
  | .float x => x.truncate?
  | .str t => Text.toInt? t
  | _ => none

end SealedPost.Json
