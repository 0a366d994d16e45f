import SealedPost.Bytes

/-! # UTF-8

The reader looks at one sequence at a time and says either which code point it is or
what is wrong with how many bytes of it. A strict decoder stops at the first fault; a
replacing decoder writes U+FFFD for each and goes on. -/

namespace SealedPost.Utf8

/-- The bytes of a code point. A lone surrogate gets the three bytes that its number
would have. -/
def encodeOne (c : CodePoint) : Bytes :=
  let n := c.toNat
  if n < 0x80 then [UInt8.ofNat n]
  else if n < 0x800 then [UInt8.ofNat (0xC0 + n / 64), UInt8.ofNat (0x80 + n % 64)]
  else if n < 0x10000 then
    [UInt8.ofNat (0xE0 + n / 4096), UInt8.ofNat (0x80 + n / 64 % 64),
      UInt8.ofNat (0x80 + n % 64)]
  else
    [UInt8.ofNat (0xF0 + n / 262144), UInt8.ofNat (0x80 + n / 4096 % 64),
      UInt8.ofNat (0x80 + n / 64 % 64), UInt8.ofNat (0x80 + n % 64)]

/-- The bytes of a text, lone surrogates included. -/
def encode (t : Text) : Bytes := t.flatMap encodeOne

/-- The bytes of a text without lone surrogates. -/
def encode? (t : Text) : Option Bytes :=
  if t.isEncodable then some (encode t) else none

/-- What is wrong with a sequence of bytes. -/
inductive Reason where
  | invalidStart
  | invalidContinuation
  | unexpectedEnd
deriving DecidableEq

/-- The sequence at the head of a byte string: a code point or a fault, and its length. -/
inductive Sequence where
  | point (c : CodePoint) (length : Nat)
  | fault (reason : Reason) (length : Nat)

/-- Holds for the bytes that may follow the first byte of a sequence. -/
def isContinuation (b : UInt8) : Bool := 0x80 ≤ b.toNat && b.toNat < 0xC0

/-- Whether lone surrogates in their three-byte form are read or refused. -/
inductive Surrogates where
  | pass
  | refuse
deriving DecidableEq

/-- The bounds of the second byte after a given first byte of three or four. -/
def secondBounds (first : Nat) : Nat × Nat :=
  if first = 0xE0 then (0xA0, 0xBF)
  else if first = 0xED then (0x80, 0x9F)
  else if first = 0xF0 then (0x90, 0xBF)
  else if first = 0xF4 then (0x80, 0x8F)
  else (0x80, 0xBF)

/-- A sequence of two bytes after its first. -/
def pair (first : Nat) : Bytes → Sequence
  | [] => .fault .unexpectedEnd 1
  | b :: _ =>
    if isContinuation b then
      .point (CodePoint.ofNat (first % 32 * 64 + b.toNat % 64)) 2
    else .fault .invalidContinuation 1

/-- A sequence of three bytes after its first. -/
def triple (surrogates : Surrogates) (first : Nat) : Bytes → Sequence
  | [] => .fault .unexpectedEnd 1
  | [b] =>
    let (low, high) := secondBounds first
    if low ≤ b.toNat ∧ b.toNat ≤ high then .fault .unexpectedEnd 2
    else .fault .invalidContinuation 1
  | b :: c :: _ =>
    let (low, high) := secondBounds first
    let value := CodePoint.ofNat (first % 16 * 4096 + b.toNat % 64 * 64 + c.toNat % 64)
    if low ≤ b.toNat ∧ b.toNat ≤ high then
      if isContinuation c then .point value 3 else .fault .invalidContinuation 2
    else if surrogates = .pass ∧ first = 0xED ∧ isContinuation b ∧ isContinuation c then
      .point value 3
    else .fault .invalidContinuation 1

/-- A sequence of four bytes after its first. -/
def quadruple (first : Nat) (rest : Bytes) : Sequence :=
  let (low, high) := secondBounds first
  match rest with
  | [] => .fault .unexpectedEnd 1
  | b :: rest =>
    if low ≤ b.toNat ∧ b.toNat ≤ high then
      match rest with
      | [] => .fault .unexpectedEnd 2
      | c :: rest =>
        if isContinuation c then
          match rest with
          | [] => .fault .unexpectedEnd 3
          | d :: _ =>
            if isContinuation d then
              .point (CodePoint.ofNat (first % 8 * 262144 + b.toNat % 64 * 4096
                + c.toNat % 64 * 64 + d.toNat % 64)) 4
            else .fault .invalidContinuation 3
        else .fault .invalidContinuation 2
    else .fault .invalidContinuation 1

/-- The sequence that starts with a given byte. -/
def sequence (surrogates : Surrogates) (first : UInt8) (rest : Bytes) : Sequence :=
  let n := first.toNat
  if n < 0x80 then .point (CodePoint.ofNat n) 1
  else if n < 0xC2 then .fault .invalidStart 1
  else if n < 0xE0 then pair n rest
  else if n < 0xF0 then triple surrogates n rest
  else if n < 0xF5 then quadruple n rest
  else .fault .invalidStart 1

/-- A fault with the positions of its first byte and of the byte after its last. -/
structure Fault where
  reason : Reason
  start : Nat
  stop : Nat
deriving DecidableEq

/-- Decodes up to the first fault; `position` and `skip` say where the reader stands and
how many bytes of the sequence before it are still to be passed over. -/
def decodeFrom (surrogates : Surrogates) : (position skip : Nat) → Bytes → Except Fault Text
  | _, _, [] => .ok []
  | position, skip + 1, _ :: rest => decodeFrom surrogates (position + 1) skip rest
  | position, 0, b :: rest =>
    match sequence surrogates b rest with
    | .point c length =>
      (decodeFrom surrogates (position + 1) (length - 1) rest).map (c :: ·)
    | .fault reason length => .error ⟨reason, position, position + length⟩

/-- The text of a byte string, or the first fault in it. -/
def decode (surrogates : Surrogates) (bytes : Bytes) : Except Fault Text :=
  decodeFrom surrogates 0 0 bytes

/-- Decodes with U+FFFD for each faulty sequence; `skip` as in `decodeFrom`. -/
def decodeReplacingFrom : (skip : Nat) → Bytes → Text
  | _, [] => []
  | skip + 1, _ :: rest => decodeReplacingFrom skip rest
  | 0, b :: rest =>
    match sequence .refuse b rest with
    | .point c length => c :: decodeReplacingFrom (length - 1) rest
    | .fault _ length => .char '\uFFFD' :: decodeReplacingFrom (length - 1) rest

/-- The text of a byte string with U+FFFD in place of what is not UTF-8. -/
def decodeReplacing (bytes : Bytes) : Text := decodeReplacingFrom 0 bytes

end SealedPost.Utf8
