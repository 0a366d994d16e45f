import SealedPost.Text.Basic

/-! # Violations of the form of a record

A document that is JSON may still not be the record that is wanted. Every violation is
reported with the place where it was found; the wording depends on where the document
came from. -/

namespace SealedPost.Wire

/-- Where a document comes from: stored bytes, a value read before, or a request body. -/
inductive Source where
  | stored
  | value
  | request
deriving DecidableEq

/-- One step on the way to a place inside a document. -/
inductive Step where
  | field (name : Text)
  | index (position : Nat)
deriving DecidableEq

/-- What is wrong at a place. -/
inductive Problem where
  | unreadable
  | missing
  | notRecord (source : Source) (record : Text)
  | notList (source : Source)
  | notPair (source : Source)
  | tooLong (length : Nat)
  | notText
  | notEncodable
  | notKind
  | notInteger
  | integerText
  | integerFraction
  | integerSize
  | notFinite
  | negative
  | badValue (reason : Text)
deriving DecidableEq

/-- A problem and the way to its place from the top. -/
structure Violation where
  place : List Step
  problem : Problem
deriving DecidableEq

/-- The name of a problem. -/
def Problem.code : Problem → Text
  | unreadable => "json_invalid"
  | missing => "missing"
  | notRecord .request _ => "model_attributes_type"
  | notRecord _ _ => "model_type"
  | notList _ => "list_type"
  | notPair _ => "tuple_type"
  | tooLong _ => "too_long"
  | notText => "string_type"
  | notEncodable => "string_unicode"
  | notKind => "enum"
  | notInteger => "int_type"
  | integerText => "int_parsing"
  | integerFraction => "int_from_float"
  | integerSize => "int_parsing_size"
  | notFinite => "finite_number"
  | negative => "greater_than_equal"
  | badValue _ => "value_error"

/-- The wording of a problem; a document that cannot be read has none. -/
def Problem.message? : Problem → Option Text
  | unreadable => none
  | missing => some "Field required"
  | notRecord .stored _ => some "Input should be an object"
  | notRecord .value record =>
    some ("Input should be a valid dictionary or instance of " ++ record)
  | notRecord .request _ =>
    some "Input should be a valid dictionary or object to extract fields from"
  | notList .stored | notPair .stored => some "Input should be a valid array"
  | notList _ => some "Input should be a valid list"
  | notPair _ => some "Input should be a valid tuple"
  | tooLong n =>
    some ("Tuple should have at most 2 items after validation, not " ++ Text.ofNat n)
  | notText => some "Input should be a valid string"
  | notEncodable =>
    some "Input should be a valid string, unable to parse raw data as a unicode string"
  | notKind => some "Input should be 'raw', 'text' or 'file'"
  | notInteger => some "Input should be a valid integer"
  | integerText => some "Input should be a valid integer, unable to parse string as an integer"
  | integerFraction => some "Input should be a valid integer, got a number with a fractional part"
  | integerSize => some "Unable to parse input string as an integer, exceeded maximum size"
  | notFinite => some "Input should be a finite number"
  | negative => some "Input should be greater than or equal to 0"
  | badValue reason => some ("Value error, " ++ reason)

/-- A violation seen from one step further up. -/
def Violation.under (step : Step) (v : Violation) : Violation := ⟨step :: v.place, v.problem⟩

/-- The value of a well-formed part, or all that is wrong with it. -/
abbrev Checked (α : Type) := Except (List Violation) α

namespace Checked

/-- A single problem at the present place. -/
def refuse {α : Type} (problem : Problem) : Checked α := .error [⟨[], problem⟩]

/-- A part at one step below. -/
def under {α : Type} (step : Step) (c : Checked α) : Checked α :=
  c.mapError (·.map (Violation.under step))

/-- Two parts: what is wrong with either is reported, the first part first. -/
def both {α β : Type} : Checked α → Checked β → Checked (α × β)
  | .ok a, .ok b => .ok (a, b)
  | .ok _, .error es => .error es
  | .error es, .ok _ => .error es
  | .error es, .error fs => .error (es ++ fs)

/-- A list of parts by their positions, from a given position on. -/
def each {α β : Type} (check : α → Checked β) : (position : Nat) → List α → Checked (List β)
  | _, [] => .ok []
  | position, a :: rest =>
    ((under (.index position) (check a)).both (each check (position + 1) rest)).map
      fun parts => parts.1 :: parts.2

@[simp] theorem under_ok {α : Type} (step : Step) (a : α) :
    under step (.ok a : Checked α) = .ok a := rfl

@[simp] theorem both_ok {α β : Type} (a : α) (b : β) :
    both (.ok a : Checked α) (.ok b : Checked β) = .ok (a, b) := rfl

theorem each_map {α β : Type} {check : α → Checked β} {written : β → α}
    (h : ∀ b, check (written b) = .ok b) (position : Nat) (items : List β) :
    each check position (items.map written) = .ok items := by
  induction items generalizing position with
  | nil => rfl
  | cons b rest ih =>
    rw [List.map_cons, each, h, ih, under_ok, both_ok]
    rfl

end Checked
end SealedPost.Wire
