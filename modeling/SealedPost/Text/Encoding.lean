import SealedPost.Text.Utf8

/-! # Encodings told from the first bytes

A JSON document may come in UTF-8, UTF-16 or UTF-32. The encoding is told from a byte
order mark, or else from where the zero bytes stand among the first four, since the
first character of a document is an ASCII one. Lone surrogates are read in all of them. -/

namespace SealedPost

/-- The encodings of a document. -/
inductive Encoding where
  | utf8
  | utf16LE
  | utf16BE
  | utf32LE
  | utf32BE
deriving DecidableEq

/-- The name of an encoding in messages. -/
def Encoding.name : Encoding → Text
  | utf8 => "utf-8"
  | utf16LE => "utf-16-le"
  | utf16BE => "utf-16-be"
  | utf32LE => "utf-32-le"
  | utf32BE => "utf-32-be"

/-- What is wrong with the bytes of a text. -/
inductive DecodeReason where
  | utf8 (reason : Utf8.Reason)
  | truncated
  | outOfRange
deriving DecidableEq

/-- The wording of each reason. -/
def DecodeReason.message : DecodeReason → Text
  | utf8 .invalidStart => "invalid start byte"
  | utf8 .invalidContinuation => "invalid continuation byte"
  | utf8 .unexpectedEnd => "unexpected end of data"
  | truncated => "truncated data"
  | outOfRange => "code point not in range(0x110000)"

/-- Bytes that are no text: the encoding, the reason, the position of the first faulty
byte and of the byte after the last, and the first faulty byte. -/
structure DecodeFault where
  encoding : Encoding
  reason : DecodeReason
  start : Nat
  stop : Nat
  first : UInt8
deriving DecidableEq

/-- The message shows the byte if only one is at fault and the positions otherwise. -/
def DecodeFault.message (f : DecodeFault) : Text :=
  "'" ++ f.encoding.name ++ "' codec can't decode " ++
    (if f.stop = f.start + 1 then
      "byte 0x" ++ Text.ofString (String.ofList [Bytes.hexDigit (f.first.toNat / 16),
        Bytes.hexDigit (f.first.toNat % 16)]) ++ " in position " ++ Text.ofNat f.start
    else
      "bytes in position " ++ Text.ofNat f.start ++ "-" ++ Text.ofNat (f.stop - 1))
    ++ ": " ++ f.reason.message

namespace Encoding

/-- Whole code units of `size` bytes, as numbers, and the bytes left over. -/
def units (size : Nat) (bigEndian : Bool) (bytes : Bytes) : List Nat × Bytes :=
  let count := bytes.length / size
  let number (unit : Bytes) : Nat :=
    Bytes.toNat (if bigEndian then unit.reverse else unit)
  ((Bytes.blocks size count bytes).map number, bytes.drop (size * count))

/-- Joins each high surrogate with a low one that follows it. -/
def joinSurrogates : List Nat → Text
  | [] => []
  | [u] => [CodePoint.ofNat u]
  | u :: v :: rest =>
    if 0xD800 ≤ u ∧ u < 0xDC00 ∧ 0xDC00 ≤ v ∧ v < 0xE000 then
      CodePoint.ofNat (0x10000 + (u - 0xD800) * 1024 + (v - 0xDC00)) :: joinSurrogates rest
    else CodePoint.ofNat u :: joinSurrogates (v :: rest)

/-- Code points by number, or the index of the first number past the last code point. -/
def codePoints : (index : Nat) → List Nat → Except Nat Text
  | _, [] => .ok []
  | index, u :: rest =>
    if u < 0x110000 then (codePoints (index + 1) rest).map (CodePoint.ofNat u :: ·)
    else .error index

/-- The fault of the bytes from a position on. -/
def faultAt (encoding : Encoding) (reason : DecodeReason) (bytes : Bytes)
    (start stop : Nat) : DecodeFault :=
  ⟨encoding, reason, start, stop, bytes.getD start 0⟩

/-- Decodes what follows the first `mark` bytes; positions count from the first byte. -/
def decodeUtf16 (encoding : Encoding) (mark : Nat) (bytes : Bytes) :
    Except DecodeFault Text :=
  let (numbers, rest) := units 2 (encoding = .utf16BE) (bytes.drop mark)
  if rest.isEmpty then .ok (joinSurrogates numbers)
  else .error (faultAt encoding .truncated bytes (bytes.length - 1) bytes.length)

/-- Decodes what follows the first `mark` bytes; positions count from the first byte. -/
def decodeUtf32 (encoding : Encoding) (mark : Nat) (bytes : Bytes) :
    Except DecodeFault Text :=
  let (numbers, rest) := units 4 (encoding = .utf32BE) (bytes.drop mark)
  match codePoints 0 numbers with
  | .error index =>
    .error (faultAt encoding .outOfRange bytes (mark + 4 * index) (mark + 4 * index + 4))
  | .ok text =>
    if rest.isEmpty then .ok text
    else .error (faultAt encoding .truncated bytes (bytes.length - rest.length) bytes.length)

/-- Decodes UTF-8. -/
def decodeUtf8 (bytes : Bytes) : Except DecodeFault Text :=
  (Utf8.decode .pass bytes).mapError fun f =>
    faultAt .utf8 (.utf8 f.reason) bytes f.start f.stop

/-- The encoding and the length of the byte order mark, which UTF-8 has apart. -/
def detect : Bytes → Encoding × Nat
  | 0x00 :: 0x00 :: 0xFE :: 0xFF :: _ => (.utf32BE, 4)
  | 0xFF :: 0xFE :: 0x00 :: 0x00 :: _ => (.utf32LE, 4)
  | 0xFE :: 0xFF :: _ => (.utf16BE, 2)
  | 0xFF :: 0xFE :: _ => (.utf16LE, 2)
  | 0xEF :: 0xBB :: 0xBF :: _ => (.utf8, 3)
  | a :: b :: c :: d :: _ =>
    if a = 0 then (if b = 0 then .utf32BE else .utf16BE, 0)
    else if b = 0 then (if c = 0 ∧ d = 0 then .utf32LE else .utf16LE, 0)
    else (.utf8, 0)
  | [a, b] => (if a = 0 then .utf16BE else if b = 0 then .utf16LE else .utf8, 0)
  | _ => (.utf8, 0)

/-- The text of a document. After a UTF-8 mark, positions count from the byte after it. -/
def decodeDocument (bytes : Bytes) : Except DecodeFault Text :=
  match detect bytes with
  | (.utf8, mark) => decodeUtf8 (bytes.drop mark)
  | (.utf16LE, mark) => decodeUtf16 .utf16LE mark bytes
  | (.utf16BE, mark) => decodeUtf16 .utf16BE mark bytes
  | (.utf32LE, mark) => decodeUtf32 .utf32LE mark bytes
  | (.utf32BE, mark) => decodeUtf32 .utf32BE mark bytes

end Encoding
end SealedPost
