import SealedPost.Text.Utf8

/-! # Query strings

Pairs of names and values between ampersands. A plus sign is a blank, a percent sign
starts a byte; runs of ASCII are decoded as UTF-8, with U+FFFD for what is not. -/

namespace SealedPost.Service.Query

/-- The bytes of a run of ASCII: an escape gives its byte, all else itself. -/
def unescape : Text → Bytes
  | [] => []
  | .char '%' :: a :: b :: rest =>
    match a.hexDigit?, b.hexDigit? with
    | some hi, some lo => UInt8.ofNat (16 * hi + lo) :: unescape rest
    | _, _ => 0x25 :: unescape (a :: b :: rest)
  | c :: rest => UInt8.ofNat c.toNat :: unescape rest

/-- Decodes escapes run by run; `run` is the run of ASCII read so far, in reverse. -/
def decodeRuns (run : Text) : Text → Text
  | [] => Utf8.decodeReplacing (unescape run.reverse)
  | c :: rest =>
    if c.isAscii then decodeRuns (c :: run) rest
    else Utf8.decodeReplacing (unescape run.reverse) ++ c :: decodeRuns [] rest

/-- A name or a value with its escapes decoded. -/
def decode (t : Text) : Text :=
  decodeRuns [] (t.map fun c => if c = .char '+' then .char ' ' else c)

/-- The pairs of a query; a name without a value has an empty one. -/
def pairs (t : Text) : List (Text × Text) :=
  ((t.splitOn (.char '&')).filter fun piece => !piece.isEmpty).map fun piece =>
    match piece.cutAt (.char '=') with
    | some (name, value) => (decode name, decode value)
    | none => (decode piece, [])

/-- The value of a name; of several values the last. -/
def value? (name t : Text) : Option Text := (pairs t).reverse.lookup name

end SealedPost.Service.Query
