import SealedPost.Base64
import SealedPost.Json.Reader
import SealedPost.Json.Shown
import SealedPost.Text.Blank
import SealedPost.Token.Refusal

/-! # Compact signed tokens

A token is three segments of unpadded base64 between points: a header and a payload, which
are JSON objects, and a signature over the text of the first two. -/

namespace SealedPost.Token

/-- A token taken apart. The signing input is the text that the signature covers. -/
structure Compact where
  header : List (Text × Json)
  payload : List (Text × Json)
  signature : Bytes
  signingInput : Text

/-- The members of a segment that is a JSON object. -/
def readObject? (segment : Text) : Option (List (Text × Json)) :=
  match Base64.decodeUrl segment with
  | .error _ => none
  | .ok bytes =>
    match Json.readDocument bytes with
    | .ok (.obj members) => some members
    | _ => none

/-- Two segments with a point between them: the text that is signed. -/
def joinSegments (header payload : Text) : Text := header ++ .char '.' :: payload

/-- Takes a token apart. -/
def Compact.parse (t : Text) : Except Refusal Compact :=
  match Text.splitOn (.char '.') t with
  | [header, payload, signature] =>
    match readObject? header, readObject? payload, Base64.decodeUrl signature with
    | some h, some p, .ok s => .ok ⟨h, p, s, joinSegments header payload⟩
    | _, _, _ => .error .malformedToken
  | _ => .error .malformedToken

/-- The token with the given header, payload and signature. -/
def Compact.build (header payload signature : Bytes) : Text :=
  joinSegments (Base64.encodeUrl header) (Base64.encodeUrl payload)
    ++ .char '.' :: Base64.encodeUrl signature

/-- The token in the value of an authorization header: what follows the word for bearers,
in any case, and one space. -/
def bearer (authorization : Option Text) : Except Refusal Text :=
  let word : Text := "bearer "
  match authorization with
  | none => .error .missingToken
  | some t =>
    if (t.take word.length).map CodePoint.asciiLower = word then
      .ok (Text.trim (t.drop word.length))
    else .error .missingToken

/-- The account of 32 bytes that a text stands for. -/
def account (t : Text) : Except Refusal Bytes :=
  match Base64.decodeUrl (Text.trim t) with
  | .ok bytes => if bytes.length = 32 then .ok bytes else .error .invalidAccount
  | .error _ => .error .invalidAccount

/-- The trimmed text of a member that names an account; empty if there is none. -/
def accountText (name : Text) (members : List (Text × Json)) : Text :=
  match Json.member? name members with
  | none => []
  | some v => if v.isEmptyValue then [] else Text.trim v.asText

/-- The time in a member; a missing one counts as zero. -/
def time? (name : Text) (members : List (Text × Json)) : Option Int :=
  match Json.member? name members with
  | none => some 0
  | some v => v.toInt?

/-- The text of the identifier of a token; a missing one is empty. -/
def idText (members : List (Text × Json)) : Text :=
  ((Json.member? "jti" members).map Json.asText).getD []

end SealedPost.Token
