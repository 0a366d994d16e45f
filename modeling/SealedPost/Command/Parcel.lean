import SealedPost.Json.Reader
import SealedPost.Json.Shown
import SealedPost.Wire.Records

/-! # Parcels

A parcel is what the sender hands over: an envelope with the encrypted messages and the
keys that they are for. It is read from a document; the first thing that is wrong with the
document is reported. The reader may have little room for what a document nests, but always
enough for a parcel. -/

namespace SealedPost.Command

/-- Why a document is no parcel. -/
inductive ParcelFault where
  | unreadable (fault : Json.DocumentFault)
  | notRecord (value : Json)
  | missing (name : Text)
  | badEnvelope (violations : List Wire.Violation)
  | notList (value : Json)
  | notPair (value : Json)
  | pairTooShort (length : Nat)
  | pairTooLong
  | notText (value : Json)
  | badBase64 (fault : Base64.Fault)

/-- Holds for the faults that are reported: all but a document that is nested too deep. -/
def ParcelFault.isReported : ParcelFault → Bool
  | unreadable (.unreadable _ .tooDeep) => false
  | _ => true

/-- How many violations an envelope has, in words. -/
def violationCount (n : Nat) : Text :=
  Text.ofNat n ++ (if n = 1 then " validation error" else " validation errors")

/-- The wording of each fault. -/
def ParcelFault.message : ParcelFault → Text
  | unreadable fault => fault.message
  | notRecord (.arr _) => "list indices must be integers or slices, not str"
  | notRecord (.str _) => "string indices must be integers, not 'str'"
  | notRecord v => "'" ++ v.kindName ++ "' object is not subscriptable"
  | missing name => Text.quoted name
  | badEnvelope violations => violationCount violations.length ++ " for MessageMetadata"
  | notList v => "'" ++ v.kindName ++ "' object is not iterable"
  | notPair v => "cannot unpack non-iterable " ++ v.kindName ++ " object"
  | pairTooShort n => "not enough values to unpack (expected 2, got " ++ Text.ofNat n ++ ")"
  | pairTooLong => "too many values to unpack (expected 2)"
  | notText v =>
    "argument should be a bytes-like object or ASCII string, not '" ++ v.kindName ++ "'"
  | badBase64 fault => fault.message

/-- An envelope with the encrypted messages and the keys that they are for. -/
structure Parcel where
  envelope : Envelope
  messages : List (Bytes × Bytes)
deriving DecidableEq

namespace Parcel

/-- A member of the document. -/
def member (name : Text) : Json → Except ParcelFault Json
  | .obj members =>
    match Json.member? name members with
    | some v => .ok v
    | none => .error (.missing name)
  | v => .error (.notRecord v)

/-- Bytes in Base64. -/
def blob : Json → Except ParcelFault Bytes
  | .str t => (Base64.decode t).mapError .badBase64
  | v => .error (.notText v)

/-- A key and the message for it. Anything that has two parts is a pair. -/
def pair (v : Json) : Except ParcelFault (Bytes × Bytes) :=
  match v.parts? with
  | none => .error (.notPair v)
  | some [key, payload] => do
    let key ← blob key
    let payload ← blob payload
    pure (key, payload)
  | some (_ :: _ :: _) => .error .pairTooLong
  | some parts => .error (.pairTooShort parts.length)

/-- The pairs of the document. Anything that has parts is a list. -/
def pairs (v : Json) : Except ParcelFault (List (Bytes × Bytes)) :=
  match v.parts? with
  | none => .error (.notList v)
  | some parts => parts.mapM pair

/-- Reads a parcel, the envelope first. -/
def ofJson (v : Json) : Except ParcelFault Parcel := do
  let envelope ← member "metadata" v
  let envelope ← (Envelope.ofJson .value envelope).mapError .badEnvelope
  let messages ← member "messages" v
  let messages ← pairs messages
  pure ⟨envelope, messages⟩

/-- How many arrays and objects of a parcel are inside each other. -/
def depth : Nat := 5

/-- The room of a reader for whom no parcel is nested too deep. -/
structure Room extends Json.Room where
  depth_le : depth ≤ levels

/-- Reads a parcel from the bytes of a document. -/
def ofBytes (room : Room) (bytes : Bytes) : Except ParcelFault Parcel := do
  let v ← (Json.readDocumentIn room.dialect bytes).mapError .unreadable
  ofJson v

/-- The message for a key among messages of which one is known to be there: the first one
for it, else the first of all. -/
def payloadFor (key : Bytes) (first : Bytes × Bytes) (rest : List (Bytes × Bytes)) : Bytes :=
  ((first :: rest).lookup key).getD first.2

end Parcel
end SealedPost.Command
