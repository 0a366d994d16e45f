import SealedPost.Base64
import SealedPost.Json.Value
import SealedPost.Message
import SealedPost.Text.FieldInteger
import SealedPost.Wire.Violation

/-! # Parts of records

Each part of a record is read by a check on a JSON value: blobs in base64, integers in
several spellings, texts, kinds, lists and pairs. The writers stand beside the checks. -/

namespace SealedPost.Wire

/-- Bytes in base64, with blanks around the text. -/
def blob : Json → Checked Bytes
  | .str t =>
    match Base64.decode (Text.trim t) with
    | .ok bytes => .ok bytes
    | .error fault => .refuse (.badValue fault.message)
  | _ => .refuse (.badValue "expected bytes or a base64 string")

/-- Bytes as a string in base64. -/
def blobJson (bytes : Bytes) : Json := .str (Base64.encode bytes)

/-- A check on a text that must have an encoding: a lone surrogate is reported first. -/
def encodable {α : Type} (check : Text → Checked α) (t : Text) : Checked α :=
  if t.isEncodable then check t else .refuse .notEncodable

/-- The bound below which a number of double precision is taken as an integer. -/
def floatBound : Int := Nat.pow 2 63

/-- An integer in text. -/
def integerText (t : Text) : Checked Int :=
  match Text.fieldInteger t with
  | .ok n => .ok n
  | .error .malformed => .refuse .integerText
  | .error .tooLong => .refuse .integerSize

/-- An integer: a number without a fraction, a truth value, or a text of digits. -/
def integer : Json → Checked Int
  | .int n => .ok n
  | .bool b => .ok (if b then 1 else 0)
  | .float x =>
    match x.truncate? with
    | none => .refuse .notFinite
    | some n =>
      if !x.isIntegral then .refuse .integerFraction
      else if -floatBound < n ∧ n < floatBound then .ok n
      else .refuse .integerSize
  | .str t => encodable integerText t
  | _ => .refuse .notInteger

/-- A text. -/
def textual : Json → Checked Text
  | .str t => .ok t
  | _ => .refuse .notText

/-- The kind of an entry by its name. -/
def kindText (t : Text) : Checked Kind :=
  match Kind.ofName? t with
  | some k => .ok k
  | none => .refuse .notKind

/-- The kind of an entry. -/
def kindName : Json → Checked Kind
  | .str t => encodable kindText t
  | _ => .refuse .notKind

/-- A list of parts. -/
def list {α : Type} (source : Source) (check : Json → Checked α) : Json → Checked (List α)
  | .arr items => .each check 0 items
  | _ => .refuse (.notList source)

/-- Two parts in an array. Too many items are reported alone. -/
def pair {α β : Type} (source : Source) (first : Json → Checked α) (second : Json → Checked β) :
    Json → Checked (α × β)
  | .arr [] =>
    Checked.both (.under (.index 0) (.refuse .missing)) (.under (.index 1) (.refuse .missing))
  | .arr [a] =>
    Checked.both (.under (.index 0) (first a)) (.under (.index 1) (.refuse .missing))
  | .arr [a, b] => Checked.both (.under (.index 0) (first a)) (.under (.index 1) (second b))
  | .arr items => .refuse (.tooLong items.length)
  | _ => .refuse (.notPair source)

/-- A member that must be there. -/
def required {α : Type} (name : Text) (check : Json → Checked α)
    (members : List (Text × Json)) : Checked α :=
  .under (.field name) <|
    match Json.member? name members with
    | some v => check v
    | none => .refuse .missing

/-- A member that may be missing. -/
def defaulted {α : Type} (name : Text) (default : α) (check : Json → Checked α)
    (members : List (Text × Json)) : Checked α :=
  match Json.member? name members with
  | some v => .under (.field name) (check v)
  | none => .ok default

/-- A record: an object whose members are checked; members that are not known are ignored. -/
def record {α : Type} (source : Source) (name : Text)
    (check : List (Text × Json) → Checked α) : Json → Checked α
  | .obj members => check members
  | _ => .refuse (.notRecord source name)

end SealedPost.Wire
