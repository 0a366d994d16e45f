import SealedPost.Json.Lexeme
import SealedPost.Text.Encoding

/-! # Reading JSON

The reader runs over the lexemes with a stack of open arrays and objects. Two dialects
are read: the strict one refuses lone surrogates, deep nesting and very many digits before
the point of any number as malformed, the lenient one lets surrogates and depth pass and
names a long integer as its own fault. Both accept the words NaN, Infinity and -Infinity.

A reader may have limited room for nesting. It then breaks off at an array or object past the
limit, and close to the limit at one of those words that is a number, and at a malformed place,
since to take such a number and to report such a place need some room as well. -/

namespace SealedPost.Json

/-- Why a document cannot be read. -/
inductive Fault where
  | malformed (problem : Problem) (position : Nat)
  | longInteger (digits : Nat)
  | loneSurrogate
  | tooDeep
deriving DecidableEq

/-- Holds for the faults that are reported from where they are found: a malformed place, unless it
is one where a value is missing, which is noticed outside of the arrays and objects. -/
def Fault.needsReport : Fault → Bool
  | .malformed problem _ => problem ≠ .expectingValue
  | _ => false

/-- What a reader accepts. The first three limits are on the arrays and objects that are open: how
many there may be, inside how many a word may stand for a number, and inside how many a malformed
place is reported. The limits on digits are for integers and, before the point or the exponent, for
the other numbers. -/
structure Dialect where
  loneSurrogates : Bool
  depthLimit : Option Nat
  wordLimit : Option Nat
  reportLimit : Option Nat
  digitLimit : Option Nat
  wholeDigitLimit : Option Nat

/-- The dialect of stored messages. -/
def Dialect.strict : Dialect where
  loneSurrogates := false
  depthLimit := some 200
  wordLimit := none
  reportLimit := none
  digitLimit := some 4300
  wholeDigitLimit := some 4300

/-- The dialect of requests and tokens, and of files for a reader who has room for all that they
nest. -/
def Dialect.lenient : Dialect where
  loneSurrogates := true
  depthLimit := none
  wordLimit := none
  reportLimit := none
  digitLimit := some 4300
  wholeDigitLimit := none

/-- The room that a reader has for nesting: how many arrays and objects may be open, inside how
many a word may stand for a number, and inside how many a malformed place is reported. -/
structure Room where
  levels : Nat
  words : Nat
  reports : Nat

/-- The lenient dialect of a reader with limited room. -/
def Room.dialect (r : Room) : Dialect :=
  { Dialect.lenient with
    depthLimit := some r.levels, wordLimit := some r.words, reportLimit := some r.reports }

namespace Reader

/-- An open array with its items in reverse, or an open object that waits for the value
of a name. -/
inductive Frame where
  | array (reversed : List Json)
  | object (members : List (Text × Json)) (name : Text)

/-- What may come next. A fresh array or object may be closed at once. -/
inductive State where
  | value (fresh : Bool) (stack : List Frame)
  | name (fresh : Bool) (members : List (Text × Json)) (stack : List Frame)
  | colon (name : Text) (members : List (Text × Json)) (stack : List Frame)
  | after (value : Json) (stack : List Frame)

/-- The number of arrays and objects that are open. -/
def State.depth : State → Nat
  | .value _ stack | .after _ stack => stack.length
  | .name _ _ stack | .colon _ _ stack => stack.length + 1

/-- A string as a dialect takes it. -/
def takeString (d : Dialect) (t : Text) : Except Fault Text :=
  if d.loneSurrogates || t.isEncodable then .ok t
  else .error .loneSurrogate

/-- Opens an array or an object if the dialect allows one more. -/
def opened (d : Dialect) (depth : Nat) (next : State) : Except Fault State :=
  match d.depthLimit with
  | some limit => if depth < limit then .ok next else .error .tooDeep
  | none => .ok next

/-- A word, if it may stand inside so many arrays and objects; only those for numbers may not. -/
def takeWord (d : Dialect) (depth : Nat) (v : Json) : Except Fault Json :=
  match v, d.wordLimit with
  | .float _, some limit => if depth ≤ limit then .ok v else .error .tooDeep
  | _, _ => .ok v

/-- A number that has a count of digits, if a limit on them allows it. -/
def takeNumber (limit? : Option Nat) (digits : Nat) (number : Json) : Except Fault Json :=
  match limit? with
  | some limit => if digits ≤ limit then .ok number else .error (.longInteger digits)
  | none => .ok number

/-- A lexeme where a value is expected. -/
def stepValue (d : Dialect) (fresh : Bool) (stack : List Frame) (l : Lexeme) :
    Except Fault State :=
  match l.token with
  | .openArray => opened d stack.length (.value true (.array [] :: stack))
  | .openObject => opened d stack.length (.name true [] stack)
  | .word v => (takeWord d stack.length v).map (.after · stack)
  | .integer negative digits value =>
    (takeNumber d.digitLimit digits (.int (if negative then -(value : Int) else value))).map
      (.after · stack)
  | .decimal wholeDigits x =>
    (takeNumber d.wholeDigitLimit wholeDigits (.float x)).map (.after · stack)
  | .string t => (takeString d t).map fun t => .after (.str t) stack
  | .broken problem position => .error (.malformed problem position)
  | .closeArray =>
    if fresh then .ok (.after (.arr []) (stack.drop 1))
    else .error (.malformed .expectingValue l.position)
  | _ => .error (.malformed .expectingValue l.position)

/-- A lexeme where the name of a member is expected. -/
def stepName (d : Dialect) (fresh : Bool) (members : List (Text × Json))
    (stack : List Frame) (l : Lexeme) : Except Fault State :=
  match l.token with
  | .string t => (takeString d t).map fun t => .colon t members stack
  | .broken problem position => .error (.malformed problem position)
  | .closeObject =>
    if fresh then .ok (.after (.obj members) stack)
    else .error (.malformed .expectingName l.position)
  | _ => .error (.malformed .expectingName l.position)

/-- A lexeme after a complete value. -/
def stepAfter (v : Json) (stack : List Frame) (l : Lexeme) : Except Fault State :=
  match stack with
  | [] => .error (.malformed .extraData l.position)
  | .array reversed :: rest =>
    match l.token with
    | .comma => .ok (.value false (.array (v :: reversed) :: rest))
    | .closeArray => .ok (.after (.arr (v :: reversed).reverse) rest)
    | _ => .error (.malformed .expectingComma l.position)
  | .object members name :: rest =>
    match l.token with
    | .comma => .ok (.name false (setMember name v members) rest)
    | .closeObject => .ok (.after (.obj (setMember name v members)) rest)
    | _ => .error (.malformed .expectingComma l.position)

/-- One lexeme. -/
def step (d : Dialect) (s : State) (l : Lexeme) : Except Fault State :=
  match s with
  | .value fresh stack => stepValue d fresh stack l
  | .name fresh members stack => stepName d fresh members stack l
  | .colon name members stack =>
    match l.token with
    | .colon => .ok (.value false (.object members name :: stack))
    | _ => .error (.malformed .expectingColon l.position)
  | .after v stack => stepAfter v stack l

/-- The end of the document, at position `length`. -/
def finish (length : Nat) : State → Except Fault Json
  | .value _ _ => .error (.malformed .expectingValue length)
  | .name _ _ _ => .error (.malformed .expectingName length)
  | .colon _ _ _ => .error (.malformed .expectingColon length)
  | .after v [] => .ok v
  | .after _ (_ :: _) => .error (.malformed .expectingComma length)

/-- A fault as it is reported from inside so many arrays and objects. -/
def report (d : Dialect) (depth : Nat) (fault : Fault) : Fault :=
  match d.reportLimit with
  | some limit => if fault.needsReport && limit < depth then .tooDeep else fault
  | none => fault

/-- Runs over the lexemes from a state. -/
def run (d : Dialect) (length : Nat) (s : State) : List Lexeme → Except Fault Json
  | [] => (finish length s).mapError (report d s.depth)
  | l :: rest =>
    match step d s l with
    | .ok next => run d length next rest
    | .error fault => .error (report d s.depth fault)

end Reader

/-- Reads a document from its text. -/
def read (d : Dialect) (t : Text) : Except Fault Json :=
  Reader.run d t.length (.value false []) (lexemes t)

/-- Reads a document that was given as text: it must not start with a byte order mark. -/
def readText (d : Dialect) (t : Text) : Except Fault Json :=
  if t.head? = some (.char '\uFEFF') then .error (.malformed .byteOrderMark 0) else read d t

/-- Why a document given as bytes cannot be read; a fault of the text keeps the text. -/
inductive DocumentFault where
  | undecodable (fault : DecodeFault)
  | unreadable (text : Text) (fault : Fault)

/-- Reads a document in a dialect from its bytes, in the encoding that they show. -/
def readDocumentIn (d : Dialect) (bytes : Bytes) : Except DocumentFault Json :=
  match Encoding.decodeDocument bytes with
  | .error fault => .error (.undecodable fault)
  | .ok text => (read d text).mapError (.unreadable text)

/-- Reads a document from its bytes, however deep it is nested. -/
def readDocument (bytes : Bytes) : Except DocumentFault Json := readDocumentIn .lenient bytes

/-- Reads a stored document: strict UTF-8 without a byte order mark. -/
def readStored? (bytes : Bytes) : Option Json :=
  match Utf8.decode .refuse bytes with
  | .error _ => none
  | .ok text => (read .strict text).toOption

/-- The wording of each problem. -/
def Problem.message : Problem → Text
  | expectingValue => "Expecting value"
  | expectingName => "Expecting property name enclosed in double quotes"
  | expectingColon => "Expecting ':' delimiter"
  | expectingComma => "Expecting ',' delimiter"
  | extraData => "Extra data"
  | byteOrderMark => "Unexpected UTF-8 BOM (decode using utf-8-sig)"
  | unterminatedString => "Unterminated string starting at"
  | controlCharacter => "Invalid control character at"
  | escape => "Invalid \\escape"
  | unicodeEscape => "Invalid \\uXXXX escape"

/-- A place in a text: line and column, both counted from one, and the position. -/
def place (t : Text) (position : Nat) : Text :=
  let before := t.take position
  let line := before.count (.char '\n') + 1
  let column := (before.reverse.takeWhile (· ≠ .char '\n')).length + 1
  "line " ++ Text.ofNat line ++ " column " ++ Text.ofNat column
    ++ " (char " ++ Text.ofNat position ++ ")"

/-- The wording of a fault in a text. -/
def Fault.message (t : Text) : Fault → Text
  | malformed problem position => problem.message ++ ": " ++ place t position
  | longInteger digits =>
    "Exceeds the limit (4300 digits) for integer string conversion: value has "
      ++ Text.ofNat digits ++ " digits; use sys.set_int_max_str_digits() to increase the limit"
  | loneSurrogate => "lone surrogate"
  | tooDeep => "maximum recursion depth exceeded"

/-- The wording of a fault in a document. -/
def DocumentFault.message : DocumentFault → Text
  | undecodable fault => fault.message
  | unreadable text fault => fault.message text

end SealedPost.Json
