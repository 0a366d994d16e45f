import SealedPost.Json.Reader
import SealedPost.Ledger
import SealedPost.Service.Clock
import SealedPost.Service.Query
import SealedPost.Wire.Records

/-! # Requests and responses

What is asked of the service and what it answers. A body is read as JSON only if the
content type says so. -/

namespace SealedPost.Service

open Wire

/-- A request. The path is decoded, the query is not. -/
structure Request where
  method : Text
  path : Text
  query : Text
  headers : List (Text × Text)
  body : Bytes

/-- The value of the first header of a name, in any case. -/
def Request.header? (r : Request) (name : Text) : Option Text :=
  (r.headers.find? fun h => h.1.map CodePoint.asciiLower = name).map Prod.snd

/-- Whether a content type stands for JSON: an application type that is JSON or ends in
the suffix for it. Parameters do not count. -/
def isJsonType (value : Text) : Bool :=
  let bare := ((value.cutAt (.char ';')).map Prod.fst).getD value
  match (bare.trim.map CodePoint.asciiLower).splitOn (.char '/') with
  | [main, sub] =>
    let json : Text := "json"
    let suffix : Text := "+json"
    main = Text.ofString "application" && (sub = json || suffix.isSuffixOf sub)
  | _ => false

/-- What can fail inside the service: the number of a message, or the date. -/
inductive Failure where
  | ledger (fault : LedgerFault)
  | clock (fault : Clock.Fault)
deriving DecidableEq

/-- A response: content with its status, a list of violations, or a failure inside the
service. -/
inductive Response where
  | content (status : Nat) (body : Text)
  | invalid (violations : List Violation)
  | failed (failure : Failure)

/-- A response whose content is a JSON document. -/
def Response.json (status : Nat) (v : Json) : Response := .content status (Json.writeCompact v)

/-- A response that gives a reason. -/
def Response.detail (status : Nat) (reason : Text) : Response :=
  .json status (.obj [("detail", .str reason)])

/-- A body that was received. -/
inductive Body where
  | absent
  | document (v : Json)
  | raw

/-- Reads the body. JSON that is malformed is a violation at its position; one that cannot
be decoded, or holds a number that is too long, is a bad request. -/
def readBody (r : Request) : Except Response Body :=
  if r.body.isEmpty then .ok .absent
  else if ((r.header? "content-type").map isJsonType).getD false then
    match Json.readDocument r.body with
    | .ok .null => .ok .absent
    | .ok v => .ok (.document v)
    | .error (.unreadable _ (.malformed _ position)) =>
      .error (.invalid [⟨[.field "body", .index position], .unreadable⟩])
    | .error _ => .error (.detail 400 "There was an error parsing the body")
  else .ok .raw

/-- The posting in a body. -/
def readPosting (body : Body) : Checked Posting :=
  .under (.field "body") <|
    match body with
    | .absent => .refuse .missing
    | .raw => .refuse (.notRecord .request "SendMessageIn")
    | .document v => Posting.ofJson .request v

/-- The index from which events are wanted: zero unless the query has one. -/
def readSince (query : Text) : Checked Int :=
  match Query.value? "since" query with
  | none => .ok 0
  | some t =>
    .under (.field "query") <| .under (.field "since") <|
      match integer (.str t) with
      | .ok n => if n < 0 then .refuse .negative else .ok n
      | .error violations => .error violations

end SealedPost.Service
