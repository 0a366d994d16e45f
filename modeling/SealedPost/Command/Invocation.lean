import SealedPost.Base64
import SealedPost.Command.Arguments
import SealedPost.Message
import SealedPost.Text.Utf8

/-! # Invocations

The program has three commands: one makes a pair of keys, one composes a message and one
reads what was composed. Each command has a grammar of its own behind the grammar of the
program; faults in the arguments of a command are reported before arguments that are left
over. -/

namespace SealedPost.Command

/-- What is composed: entries without their kind, which is the same for all. -/
structure ComposeOptions where
  origin : Bytes
  secretKey : Bytes
  recipients : List Bytes
  entries : List (Bytes × Bytes)
  kind : Kind
deriving DecidableEq

/-- What is read and with which key. -/
structure ReadOptions where
  origin : Bytes
  secretKey : Bytes
  input : Text
deriving DecidableEq

/-- A command with its options. -/
inductive Invocation where
  | keygen
  | compose (options : ComposeOptions)
  | read (options : ReadOptions)
deriving DecidableEq

/-- Bytes in Base64 as the value of an option. -/
def blobValue (t : Text) : Except ArgumentFault Bytes :=
  (Base64.decode t).mapError fun _ => .badValue ("not valid base64: " ++ Text.quoted t)

/-- An entry as the value of an option: the key ends at the first equals sign. -/
def entryValue (t : Text) : Except ArgumentFault (Bytes × Bytes) :=
  match t.cutAt (.char '=') with
  | none => .error (.badValue ("expected KEY=VALUE, got " ++ Text.quoted t))
  | some (key, value) =>
    match Utf8.encode? key, Utf8.encode? value with
    | some key, some value => .ok (key, value)
    | _, _ => .error (.badValue ("invalid _entry value: " ++ Text.quoted t))

/-- A kind of entries as the value of an option. -/
def kindValue (t : Text) : Except ArgumentFault Kind :=
  match Kind.ofName? t with
  | some kind => .ok kind
  | none => .error (.invalidChoice t (Kind.all.map Kind.name))

/-- The option that asks for help; every grammar has it. -/
def helpRule {σ : Type} : Rule σ := ⟨["-h", "--help"], .help⟩

/-- An option whose value is read and put into the arguments so far. -/
def valueRule {σ α : Type} (name : Text) (read : Text → Except ArgumentFault α)
    (put : σ → α → σ) : Rule σ :=
  ⟨[name], .value fun s t => (read t).map (put s)⟩

/-- The options of a command so far; those of a command that is complete are all given. -/
structure Draft where
  origin : Option Bytes
  secretKey : Option Bytes
  recipients : List Bytes
  entries : List (Bytes × Bytes)
  kind : Kind
  input : Option Text

namespace Draft

/-- Nothing is given; entries are raw unless said otherwise. -/
def empty : Draft := ⟨none, none, [], [], .raw, none⟩

/-- The option for the account that sends. -/
def originRule : Rule Draft :=
  valueRule "--origin" blobValue fun d b => { d with origin := some b }

/-- The option for the secret key. -/
def secretKeyRule : Rule Draft :=
  valueRule "--secret-key" blobValue fun d b => { d with secretKey := some b }

/-- The grammar of the command that makes keys. -/
def keygenGrammar : Grammar Draft := ⟨"nolik keygen", [helpRule], .none⟩

/-- The grammar of the command that composes. -/
def composeGrammar : Grammar Draft where
  program := "nolik compose"
  options :=
    [helpRule, originRule, secretKeyRule,
      valueRule "--to" blobValue fun d b => { d with recipients := d.recipients ++ [b] },
      valueRule "--entry" entryValue fun d e => { d with entries := d.entries ++ [e] },
      valueRule "--kind" kindValue fun d k => { d with kind := k }]
  operand := .none

/-- The grammar of the command that reads. -/
def readGrammar : Grammar Draft where
  program := "nolik read"
  options := [helpRule, originRule, secretKeyRule]
  operand := .one fun d t => { d with input := some t }

/-- The names of those arguments that are not given. -/
def missing (required : List (Text × Bool)) : List Text :=
  (required.filter fun r => !r.2).map Prod.fst

/-- The command that makes keys; it needs nothing. -/
def keygen (_ : Draft) : Except ArgumentFault Invocation := .ok .keygen

/-- The command that composes, if all that it needs is given. -/
def compose (d : Draft) : Except ArgumentFault Invocation :=
  match d.origin, d.secretKey, d.recipients, d.entries with
  | some origin, some secretKey, _ :: _, _ :: _ =>
    .ok (.compose ⟨origin, secretKey, d.recipients, d.entries, d.kind⟩)
  | _, _, _, _ =>
    .error (.missingArguments (missing
      [("--origin", d.origin.isSome), ("--secret-key", d.secretKey.isSome),
        ("--to", !d.recipients.isEmpty), ("--entry", !d.entries.isEmpty)]))

/-- The command that reads, if all that it needs is given. -/
def read (d : Draft) : Except ArgumentFault Invocation :=
  match d.origin, d.secretKey, d.input with
  | some origin, some secretKey, some input => .ok (.read ⟨origin, secretKey, input⟩)
  | _, _, _ =>
    .error (.missingArguments (missing
      [("--origin", d.origin.isSome), ("--secret-key", d.secretKey.isSome),
        ("input", d.input.isSome)]))

end Draft

/-- A command: its grammar, and how it is made from what was given. -/
structure Spelling where
  grammar : Grammar Draft
  finish : Draft → Except ArgumentFault Invocation

/-- The commands by name. -/
def spellings : List (Text × Spelling) :=
  [("keygen", ⟨Draft.keygenGrammar, Draft.keygen⟩),
    ("compose", ⟨Draft.composeGrammar, Draft.compose⟩),
    ("read", ⟨Draft.readGrammar, Draft.read⟩)]

/-- The grammar of the program: the first operand is the name of a command, and all that
comes after it belongs to the command. -/
def programGrammar : Grammar (List Text) where
  program := "nolik"
  options := [helpRule, ⟨["-v", "--verbose"], .flag id⟩]
  operand := .rest fun _ operands => operands

/-- Reads the arguments of a command: the command and what is left over. -/
def Spelling.read (s : Spelling) (arguments : List Text) :
    Except Stop (Invocation × List Text) := do
  let (draft, leftOver) ← s.grammar.parse Draft.empty arguments
  let invocation ← (s.finish draft).mapError s.grammar.fault
  pure (invocation, leftOver)

/-- Reads the arguments of the program. -/
def Invocation.ofArguments (arguments : List Text) : Except Stop Invocation := do
  let (operands, leftOver) ← programGrammar.parse [] arguments
  match operands with
  | [] => .error (programGrammar.fault (.missingArguments ["command"]))
  | name :: operands =>
    match spellings.lookup name with
    | none =>
      let fault := ArgumentFault.invalidChoice name (spellings.map Prod.fst)
      .error (.usage ⟨programGrammar.program, some "command", fault⟩)
    | some spelling =>
      let (invocation, more) ← spelling.read operands
      match leftOver ++ more with
      | [] => .ok invocation
      | leftOver => .error (programGrammar.fault (.leftOver leftOver))

end SealedPost.Command
