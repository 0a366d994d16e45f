import SealedPost.Decimal.Binary64

/-! # JSON values

Objects keep their members in the order in which the names first came up; a name that
comes up again replaces the value and keeps its place. Integers have any size, and a
number with a fraction or an exponent is one of double precision. -/

namespace SealedPost

/-- A JSON value. -/
inductive Json where
  | null
  | bool (value : Bool)
  | int (value : Int)
  | float (value : Binary64)
  | str (text : Text)
  | arr (items : List Json)
  | obj (members : List (Text × Json))

namespace Json

/-- Members with one name set: in its old place if it is there, else at the end. -/
def setMember (name : Text) (value : Json) : List (Text × Json) → List (Text × Json)
  | [] => [(name, value)]
  | (n, v) :: rest =>
    if n = name then (name, value) :: rest else (n, v) :: setMember name value rest

/-- The value of a name among members. -/
def member? (name : Text) : List (Text × Json) → Option Json
  | [] => none
  | (n, v) :: rest => if n = name then some v else member? name rest

theorem member?_setMember_self (name : Text) (value : Json) (members : List (Text × Json)) :
    member? name (setMember name value members) = some value := by
  induction members with
  | nil => simp [setMember, member?]
  | cons m rest ih =>
    by_cases h : m.1 = name <;> simp [setMember, member?, h, ih]

/-- The member of an object. -/
def get? (name : Text) : Json → Option Json
  | obj members => member? name members
  | _ => none

/-- The characters of a string value. -/
def text? : Json → Option Text
  | str t => some t
  | _ => none

end Json
end SealedPost
