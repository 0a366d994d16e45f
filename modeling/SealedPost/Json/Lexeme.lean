import SealedPost.Json.Value

/-! # Lexemes of JSON

The lexer reads a document one code point at a time and keeps a mode: between lexemes,
inside a string, inside a number, inside a word. Which lexeme starts at a place depends
on nothing before it, so the lexer needs no knowledge of nesting. Whatever starts no
lexeme gives a foreign lexeme, which no grammar rule accepts; nothing is read after it. -/

namespace SealedPost.Json

/-- What can be wrong with a document at one position. -/
inductive Problem where
  | expectingValue
  | expectingName
  | expectingColon
  | expectingComma
  | extraData
  | byteOrderMark
  | unterminatedString
  | controlCharacter
  | escape
  | unicodeEscape
deriving DecidableEq

/-- The kinds of lexemes. A broken string carries the problem and its position. -/
inductive Token where
  | openArray
  | closeArray
  | openObject
  | closeObject
  | comma
  | colon
  | word (value : Json)
  | integer (negative : Bool) (digits value : Nat)
  | decimal (wholeDigits : Nat) (value : Binary64)
  | string (text : Text)
  | broken (problem : Problem) (position : Nat)
  | foreign

/-- A token and the position of its first code point. -/
structure Lexeme where
  position : Nat
  token : Token

namespace Lexer

/-- The digits of a number read so far, the point left out. -/
structure Numeral where
  negative : Bool
  digits : Nat
  wholeDigits : Nat
  fractionDigits : Nat
  exponentNegative : Bool
  exponent : Nat

/-- Where in a number the lexer stands. -/
inductive NumberPhase where
  | minus
  | leadingZero
  | whole
  | point
  | fraction
  | exponentMark
  | exponentSign
  | exponent
deriving DecidableEq

/-- Where in a string the lexer stands: between escapes, after a backslash, inside the
four digits of an escape whose letter stands at `letter`, or right after them. -/
inductive StringPhase where
  | plain
  | backslash
  | digits (letter seen value : Nat)
  | afterDigits (letter : Nat)

/-- A string read so far: its text in reverse, and a high surrogate from the escape just
before, which a low one would complete. -/
structure Partial where
  reversed : Text
  high : Option Nat

/-- What the lexer is in the middle of. -/
inductive Mode where
  | between
  | inString (start : Nat) (phase : StringPhase) (part : Partial)
  | inNumber (start : Nat) (phase : NumberPhase) (mark : Nat) (numeral : Numeral)
  | inWord (start : Nat) (remaining : List Char) (value : Json)
  | stopped

/-- The token of a complete number. -/
def Numeral.token (n : Numeral) (hasExponent : Bool) : Token :=
  if n.fractionDigits = 0 ∧ hasExponent = false then .integer n.negative n.wholeDigits n.digits
  else
    let exponent : Int := if n.exponentNegative then -(n.exponent : Int) else n.exponent
    .decimal n.wholeDigits (Binary64.ofDecimal n.negative n.digits (exponent - n.fractionDigits))

/-- The lexemes of a number that ends before the present code point. A point or an
exponent mark without digits is no part of it. -/
def endNumber (start : Nat) (phase : NumberPhase) (mark : Nat) (n : Numeral) :
    List Lexeme × Mode :=
  match phase with
  | .minus => ([⟨start, .foreign⟩], .stopped)
  | .leadingZero | .whole | .fraction => ([⟨start, n.token false⟩], .between)
  | .point | .exponentMark | .exponentSign =>
    ([⟨start, n.token false⟩, ⟨mark, .foreign⟩], .stopped)
  | .exponent => ([⟨start, n.token true⟩], .between)

/-- A further digit of a number, of its fraction or of its exponent. -/
def Numeral.push (n : Numeral) (phase : NumberPhase) (digit : Nat) : Numeral :=
  match phase with
  | .minus | .leadingZero | .whole =>
    { n with digits := 10 * n.digits + digit, wholeDigits := n.wholeDigits + 1 }
  | .point | .fraction =>
    { n with digits := 10 * n.digits + digit, fractionDigits := n.fractionDigits + 1 }
  | .exponentMark | .exponentSign | .exponent => { n with exponent := 10 * n.exponent + digit }

/-- The phase after a digit, if a digit may stand there. -/
def NumberPhase.afterDigit (digit : Nat) : NumberPhase → Option NumberPhase
  | .minus => some (if digit = 0 then .leadingZero else .whole)
  | .leadingZero => none
  | .whole => some .whole
  | .point | .fraction => some .fraction
  | .exponentMark | .exponentSign | .exponent => some .exponent

/-- Blanks between lexemes: space, tab, line feed and carriage return. -/
def isBlank (c : Char) : Bool := c = ' ' ∨ c = '\t' ∨ c = '\n' ∨ c = '\r'

/-- The words that stand for a value. -/
def wordAt : Char → Option (List Char × Json)
  | 'n' => some ("ull".toList, .null)
  | 't' => some ("rue".toList, .bool true)
  | 'f' => some ("alse".toList, .bool false)
  | 'N' => some ("aN".toList, .float .nan)
  | 'I' => some ("nfinity".toList, .float (.infinite false))
  | _ => none

/-- The first code point of a lexeme. -/
def begin (position : Nat) (c : CodePoint) : List Lexeme × Mode :=
  match c with
  | .surrogate _ => ([⟨position, .foreign⟩], .stopped)
  | .char ch =>
    if isBlank ch then ([], .between)
    else match ch with
      | '[' => ([⟨position, .openArray⟩], .between)
      | ']' => ([⟨position, .closeArray⟩], .between)
      | '{' => ([⟨position, .openObject⟩], .between)
      | '}' => ([⟨position, .closeObject⟩], .between)
      | ',' => ([⟨position, .comma⟩], .between)
      | ':' => ([⟨position, .colon⟩], .between)
      | '"' => ([], .inString position .plain ⟨[], none⟩)
      | '-' => ([], .inNumber position .minus position ⟨true, 0, 0, 0, false, 0⟩)
      | _ =>
        match c.asciiDigit? with
        | some d =>
          ([], .inNumber position (if d = 0 then .leadingZero else .whole) position
            ⟨false, d, 1, 0, false, 0⟩)
        | none =>
          match wordAt ch with
          | some (remaining, value) => ([], .inWord position remaining value)
          | none => ([⟨position, .foreign⟩], .stopped)

/-- The first code point after a number: the number ends, and the next lexeme begins. -/
def afterNumber (start : Nat) (phase : NumberPhase) (mark : Nat) (n : Numeral)
    (position : Nat) (c : CodePoint) : List Lexeme × Mode :=
  match endNumber start phase mark n with
  | (out, .between) => (out ++ (begin position c).1, (begin position c).2)
  | refused => refused

/-- One code point inside a number, or the first one after it. -/
def stepNumber (start : Nat) (phase : NumberPhase) (mark : Nat) (n : Numeral)
    (position : Nat) (c : CodePoint) : List Lexeme × Mode :=
  match c.asciiDigit? with
  | some d =>
    match phase.afterDigit d with
    | some next => ([], .inNumber start next mark (n.push phase d))
    | none => afterNumber start phase mark n position c
  | none =>
    match phase, c with
    | .minus, .char 'I' =>
      ([], .inWord start "nfinity".toList (.float (.infinite true)))
    | .leadingZero, .char '.' | .whole, .char '.' => ([], .inNumber start .point position n)
    | .leadingZero, .char 'e' | .whole, .char 'e' | .fraction, .char 'e'
    | .leadingZero, .char 'E' | .whole, .char 'E' | .fraction, .char 'E' =>
      ([], .inNumber start .exponentMark position n)
    | .exponentMark, .char '+' => ([], .inNumber start .exponentSign mark n)
    | .exponentMark, .char '-' =>
      ([], .inNumber start .exponentSign mark { n with exponentNegative := true })
    | _, _ => afterNumber start phase mark n position c

/-- A code point that is no escape by number joins the string. -/
def Partial.push (p : Partial) (c : CodePoint) : Partial :=
  match p.high with
  | none => ⟨c :: p.reversed, none⟩
  | some high => ⟨c :: CodePoint.ofNat high :: p.reversed, none⟩

/-- A unit of UTF-16 joins the string; a low surrogate completes a high one before it. -/
def Partial.pushUnit (p : Partial) (unit : Nat) : Partial :=
  match p.high with
  | some high =>
    if 0xDC00 ≤ unit ∧ unit < 0xE000 then
      ⟨CodePoint.ofNat (0x10000 + (high - 0xD800) * 1024 + (unit - 0xDC00)) :: p.reversed, none⟩
    else if 0xD800 ≤ unit ∧ unit < 0xDC00 then
      ⟨CodePoint.ofNat high :: p.reversed, some unit⟩
    else ⟨CodePoint.ofNat unit :: CodePoint.ofNat high :: p.reversed, none⟩
  | none =>
    if 0xD800 ≤ unit ∧ unit < 0xDC00 then ⟨p.reversed, some unit⟩
    else ⟨CodePoint.ofNat unit :: p.reversed, none⟩

/-- The text of a finished string. -/
def Partial.text (p : Partial) : Text :=
  match p.high with
  | none => p.reversed.reverse
  | some high => (CodePoint.ofNat high :: p.reversed).reverse

/-- What a letter after a backslash stands for. -/
def escaped? : Char → Option Char
  | '"' => some '"'
  | '\\' => some '\\'
  | '/' => some '/'
  | 'b' => some '\x08'
  | 'f' => some '\x0c'
  | 'n' => some '\n'
  | 'r' => some '\r'
  | 't' => some '\t'
  | _ => none

/-- A broken string ends the reading. -/
def breakString (start : Nat) (problem : Problem) (position : Nat) : List Lexeme × Mode :=
  ([⟨start, .broken problem position⟩], .stopped)

/-- One code point inside a string. -/
def stepString (start : Nat) (phase : StringPhase) (part : Partial)
    (position : Nat) (c : CodePoint) : List Lexeme × Mode :=
  match phase with
  | .plain | .afterDigits _ =>
    if c = .char '"' then ([⟨start, .string part.text⟩], .between)
    else if c = .char '\\' then ([], .inString start .backslash part)
    else if c.toNat < 0x20 then breakString start .controlCharacter position
    else ([], .inString start .plain (part.push c))
  | .backslash =>
    if c = .char 'u' then ([], .inString start (.digits position 0 0) part)
    else match c.toChar?.bind escaped? with
      | some e => ([], .inString start .plain (part.push (.char e)))
      | none => breakString start .escape (position - 1)
  | .digits letter seen value =>
    match c.hexDigit? with
    | none => breakString start .unicodeEscape letter
    | some d =>
      if seen = 3 then
        ([], .inString start (.afterDigits letter) (part.pushUnit (16 * value + d)))
      else ([], .inString start (.digits letter (seen + 1) (16 * value + d)) part)

/-- One code point in any mode: the lexemes that it ends, and the next mode. -/
def step (mode : Mode) (position : Nat) (c : CodePoint) : List Lexeme × Mode :=
  match mode with
  | .between => begin position c
  | .inString start phase part => stepString start phase part position c
  | .inNumber start phase mark n => stepNumber start phase mark n position c
  | .inWord start remaining value =>
    match remaining with
    | [] => ([⟨start, .foreign⟩], .stopped)
    | r :: rest =>
      if c = .char r then
        if rest.isEmpty then ([⟨start, .word value⟩], .between)
        else ([], .inWord start rest value)
      else ([⟨start, .foreign⟩], .stopped)
  | .stopped => ([], .stopped)

/-- The lexemes that the end of the text ends. An escape by number needs a code point
after its last digit, else the escape is at fault and not the missing quote. -/
def finish : Mode → List Lexeme
  | .between | .stopped => []
  | .inString start (.digits letter _ _) _ | .inString start (.afterDigits letter) _ =>
    [⟨start, .broken .unicodeEscape letter⟩]
  | .inString start _ _ => [⟨start, .broken .unterminatedString start⟩]
  | .inNumber start phase mark n => (endNumber start phase mark n).1
  | .inWord start _ _ => [⟨start, .foreign⟩]

/-- The lexemes of the rest of a text. -/
def run (mode : Mode) (position : Nat) : Text → List Lexeme
  | [] => finish mode
  | c :: rest =>
    let (out, next) := step mode position c
    out ++ run next (position + 1) rest

end Lexer

/-- The lexemes of a document. -/
def lexemes (t : Text) : List Lexeme := Lexer.run .between 0 t

end SealedPost.Json
