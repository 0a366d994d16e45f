import SealedPost.Bytes

/-! # Base64

Three bytes are written as four digits of six bits. Two readings are given: the
strict one refuses whatever is not data or padding in its place, the lenient one
skips foreign characters and stops at the padding that completes a group. The
alphabet for addresses, which writes no padding, is read leniently only. -/

namespace SealedPost.Base64

/-- Why a text is not base64. -/
inductive Fault where
  | notAscii
  | leadingPadding
  | excessData
  | foreignCharacter
  | discontinuousPadding
  | lonelyDigit (digits : Nat)
  | incorrectPadding
deriving DecidableEq

/-- The wording of each fault. -/
def Fault.message : Fault → Text
  | notAscii => "string argument should contain only ASCII characters"
  | leadingPadding => "Leading padding not allowed"
  | excessData => "Excess data after padding"
  | foreignCharacter => "Only base64 data is allowed"
  | discontinuousPadding => "Discontinuous padding not allowed"
  | lonelyDigit n =>
    "Invalid base64-encoded string: number of data characters ("
      ++ Text.ofNat n ++ ") cannot be 1 more than a multiple of 4"
  | incorrectPadding => "Incorrect padding"

/-- The digit for six bits: letters, digits, then two signs. -/
def digit (sign62 sign63 : Char) (n : Nat) : CodePoint :=
  .char <|
    if n < 26 then Char.ofNat (65 + n)
    else if n < 52 then Char.ofNat (71 + n)
    else if n < 62 then Char.ofNat (n - 4)
    else if n = 62 then sign62 else sign63

/-- The six bits of a digit of the standard alphabet. -/
def sextet? : CodePoint → Option Nat
  | .char c =>
    if 'A' ≤ c ∧ c ≤ 'Z' then some (c.toNat - 65)
    else if 'a' ≤ c ∧ c ≤ 'z' then some (c.toNat - 71)
    else if '0' ≤ c ∧ c ≤ '9' then some (c.toNat + 4)
    else if c = '+' then some 62
    else if c = '/' then some 63
    else none
  | .surrogate _ => none

/-- Writes bytes with a choice of digits, the last group padded as `padding` says. -/
def encodeWith (digit : Nat → CodePoint) (padding : Nat → Text) : Bytes → Text
  | [] => []
  | [a] => digit (a.toNat / 4) :: digit (a.toNat % 4 * 16) :: padding 2
  | [a, b] =>
    digit (a.toNat / 4) :: digit (a.toNat % 4 * 16 + b.toNat / 16) ::
      digit (b.toNat % 16 * 4) :: padding 1
  | a :: b :: c :: rest =>
    digit (a.toNat / 4) :: digit (a.toNat % 4 * 16 + b.toNat / 16) ::
      digit (b.toNat % 16 * 4 + c.toNat / 64) :: digit (c.toNat % 64) ::
      encodeWith digit padding rest

/-- The standard alphabet, the last group filled up with equals signs. -/
def encode : Bytes → Text :=
  encodeWith (digit '+' '/') fun n => List.replicate n (.char '=')

/-- The alphabet for addresses, without padding. -/
def encodeUrl : Bytes → Text :=
  encodeWith (digit '-' '_') fun _ => []

/-- How strictly a text is read. -/
inductive Reading where
  | strict
  | lenient
deriving DecidableEq

/-- What has been read: digits of the open group (their pending bits in `left`),
padding signs since the last digit, whether any padding was seen, bytes produced. -/
structure Progress where
  quad : Nat
  left : Nat
  pads : Nat
  padded : Bool
  produced : Nat

namespace Progress

/-- Before the first character. -/
def start : Progress := ⟨0, 0, 0, false, 0⟩

/-- Takes a digit of six bits and gives the byte that it completes, if any. -/
def digit (p : Progress) (bits : Nat) : Option UInt8 × Progress :=
  match p.quad with
  | 0 => (none, ⟨1, bits, 0, p.padded, p.produced⟩)
  | 1 => (some (UInt8.ofNat (p.left * 4 + bits / 16)),
      ⟨2, bits % 16, 0, p.padded, p.produced + 1⟩)
  | 2 => (some (UInt8.ofNat (p.left * 16 + bits / 4)),
      ⟨3, bits % 4, 0, p.padded, p.produced + 1⟩)
  | _ => (some (UInt8.ofNat (p.left * 64 + bits)), ⟨0, 0, 0, p.padded, p.produced + 1⟩)

/-- What the end of the text means: an open group is a fault. -/
def finish (p : Progress) : Except Fault Bytes :=
  match p.quad with
  | 0 => .ok []
  | 1 => .error (.lonelyDigit (p.produced / 3 * 4 + 1))
  | _ => .error .incorrectPadding

end Progress

/-- Reads on from a point inside the text. -/
def scan (reading : Reading) (p : Progress) : Text → Except Fault Bytes
  | [] => p.finish
  | c :: rest =>
    if c = .char '=' then
      if p.quad ≥ 2 ∧ p.quad + (p.pads + 1) ≥ 4 then
        if reading = .strict ∧ rest ≠ [] then .error .excessData else .ok []
      else
        let pads := if p.quad ≥ 2 then p.pads + 1 else p.pads
        scan reading ⟨p.quad, p.left, pads, true, p.produced⟩ rest
    else match sextet? c with
      | none => if reading = .strict then .error .foreignCharacter else scan reading p rest
      | some bits =>
        if reading = .strict ∧ p.padded = true then .error .discontinuousPadding
        else match p.digit bits with
          | (none, next) => scan reading next rest
          | (some byte, next) => (scan reading next rest).map (byte :: ·)

/-- The strict reading of a text in the standard alphabet. -/
def decode (t : Text) : Except Fault Bytes :=
  if t.all CodePoint.isAscii then
    if t.head? = some (.char '=') then .error .leadingPadding
    else scan .strict .start t
  else .error .notAscii

/-- The standard digit for a sign of the alphabet for addresses. -/
def standardSign (c : CodePoint) : CodePoint :=
  if c = .char '-' then .char '+' else if c = .char '_' then .char '/' else c

/-- The lenient reading of the alphabet for addresses. The text is first filled up
with padding to a multiple of four; the standard signs are read as well. -/
def decodeUrl (t : Text) : Except Fault Bytes :=
  let filled := t ++ List.replicate ((4 - t.length % 4) % 4) (.char '=')
  if filled.all CodePoint.isAscii then scan .lenient .start (filled.map standardSign)
  else .error .notAscii

theorem sextet?_digit {n : Nat} (h : n < 64) : sextet? (digit '+' '/' n) = some n := by
  revert n
  decide

end SealedPost.Base64
