import SealedPost.Text.Utf8

/-! # Bytes that are not UTF-8, kept in text

File names and variables of the environment are bytes. As text, each byte of them that is
not UTF-8 is a byte surrogate, which stands for that one byte, so that no name is lost. -/

namespace SealedPost

/-- Holds for the surrogates that stand for a single byte. -/
def CodePoint.isByteSurrogate (c : CodePoint) : Bool := 0xDC80 ≤ c.toNat && c.toNat ≤ 0xDCFF

namespace Utf8

/-- The bytes of a text; a byte surrogate gives the byte that it stands for. -/
def encodeEscaped (t : Text) : Bytes :=
  t.flatMap fun c =>
    if c.isByteSurrogate then [UInt8.ofNat (c.toNat - 0xDC00)] else encodeOne c

/-- The byte surrogate of a byte outside ASCII. -/
def byteSurrogate (b : UInt8) : CodePoint := CodePoint.ofNat (0xDC00 + b.toNat)

/-- Decodes with byte surrogates for each faulty sequence; `skip` as in `decodeFrom`. -/
def decodeEscapedFrom : (skip : Nat) → Bytes → Text
  | _, [] => []
  | skip + 1, _ :: rest => decodeEscapedFrom skip rest
  | 0, b :: rest =>
    match sequence .refuse b rest with
    | .point c length => c :: decodeEscapedFrom (length - 1) rest
    | .fault _ length =>
      ((b :: rest).take length).map byteSurrogate ++ decodeEscapedFrom (length - 1) rest

/-- The text of a byte string with byte surrogates in place of what is not UTF-8. -/
def decodeEscaped (bytes : Bytes) : Text := decodeEscapedFrom 0 bytes

end Utf8
end SealedPost
