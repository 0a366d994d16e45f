import SealedPost.Text.Digits
import SealedPost.Text.Quoted

/-! # Arguments of a command

A grammar lists the options of a command and says what it does with operands. An argument
is an option if it starts with a dash, unless it is a dash alone, a negative number or has
a blank in it without being a known option; long options may be cut short as long as they
stay unambiguous, and take a value after an equals sign or from the next argument. After
two dashes alone everything is an operand. What fits nowhere is left over. -/

namespace SealedPost.Command

/-- Why an argument is refused. -/
inductive ArgumentFault where
  | ambiguous (given : Text) (names : List Text)
  | missingValue
  | unwantedValue (value : Text)
  | badValue (reason : Text)
  | invalidChoice (value : Text) (choices : List Text)
  | missingArguments (names : List Text)
  | leftOver (arguments : List Text)
deriving DecidableEq

/-- The wording of each fault. -/
def ArgumentFault.message : ArgumentFault → Text
  | ambiguous given names =>
    "ambiguous option: " ++ given ++ " could match " ++ Text.joinWith ", " names
  | missingValue => "expected one argument"
  | unwantedValue value => "ignored explicit argument " ++ Text.quoted value
  | badValue reason => reason
  | invalidChoice value choices =>
    "invalid choice: " ++ Text.quoted value ++ " (choose from "
      ++ Text.joinWith ", " (choices.map Text.quoted) ++ ")"
  | missingArguments names =>
    "the following arguments are required: " ++ Text.joinWith ", " names
  | leftOver arguments => "unrecognized arguments: " ++ Text.joinWith " " arguments

/-- A fault with the program that reports it and the argument that it is about. -/
structure UsageFault where
  program : Text
  argument : Option Text
  fault : ArgumentFault
deriving DecidableEq

/-- The line that reports a fault. -/
def UsageFault.message (f : UsageFault) : Text :=
  f.program ++ ": error: "
    ++ (match f.argument with
      | some name => "argument " ++ name ++ ": "
      | none => [])
    ++ f.fault.message

/-- Why reading the arguments stops: a fault, or a call for help. -/
inductive Stop where
  | usage (fault : UsageFault)
  | help
deriving DecidableEq

/-- What an option does to the arguments read so far. -/
inductive Effect (σ : Type) where
  | help
  | flag (set : σ → σ)
  | value (take : σ → Text → Except ArgumentFault σ)

/-- An option with all of its names. -/
structure Rule (σ : Type) where
  names : List Text
  effect : Effect σ

/-- The names of an option in a message. -/
def Rule.label {σ : Type} (r : Rule σ) : Text := Text.joinWith "/" r.names

/-- What a command does with operands: nothing, take one, or take the first and all that
comes after it, options included. -/
inductive Operand (σ : Type) where
  | none
  | one (take : σ → Text → σ)
  | rest (take : σ → List Text → σ)

/-- The options and operands of a command. -/
structure Grammar (σ : Type) where
  program : Text
  options : List (Rule σ)
  operand : Operand σ

/-- How the value of an option was given: not with it, after an equals sign, or attached to
a short name. -/
inductive Given where
  | apart
  | equals (value : Text)
  | attached (value : Text)
deriving DecidableEq

/-- An argument by its kind; a known option comes with the name it was recognized by. -/
inductive Item (σ : Type) where
  | operand (text : Text)
  | known (text : Text) (rule : Rule σ) (name : Text) (given : Given)
  | unknown (text : Text)

/-- An argument as it was given. -/
def Item.text {σ : Type} : Item σ → Text
  | operand t => t
  | known t _ _ _ => t
  | unknown t => t

/-- What remains to be done for an option after its flags. -/
inductive Ending (σ : Type) where
  | complete
  | leftOver (text : Text)
  | value (rule : Rule σ) (text : Text)
  | awaiting (rule : Rule σ)

/-- What an argument that is an option asks for: flags first, then one thing more. -/
structure Expansion (σ : Type) where
  flags : List (Rule σ)
  ending : Ending σ

/-- Holds for a minus sign followed by digits, with a point at most before the last. -/
def isNegativeNumber (t : Text) : Bool :=
  let isDigit (c : CodePoint) : Bool := c.decimal?.isSome
  let t := if t.getLast? = some (.char '\n') then t.dropLast else t
  match t with
  | .char '-' :: number =>
    match Text.cutAt (.char '.') number with
    | Option.none => !number.isEmpty && number.all isDigit
    | some (whole, fraction) => whole.all isDigit && !fraction.isEmpty && fraction.all isDigit
  | _ => false

namespace Grammar

variable {σ : Type}

/-- All names of options with their rules, in order. -/
def table (g : Grammar σ) : List (Text × Rule σ) :=
  g.options.flatMap fun r => r.names.map fun name => (name, r)

/-- The option of a name. -/
def rule? (g : Grammar σ) (name : Text) : Option (Rule σ) := g.table.lookup name

/-- A fault that concerns no argument in particular. -/
def fault (g : Grammar σ) (f : ArgumentFault) : Stop := .usage ⟨g.program, Option.none, f⟩

/-- A fault of an option. -/
def ruleFault (g : Grammar σ) (r : Rule σ) (f : ArgumentFault) : Stop :=
  .usage ⟨g.program, some r.label, f⟩

/-- The options that an argument may stand for without being one of their names: long
options that start with it, or short ones with their value attached. -/
def candidates (g : Grammar σ) (t : Text) : List (Item σ) :=
  match t with
  | .char '-' :: .char '-' :: _ =>
    let (start, given) : Text × Given :=
      match t.cutAt (.char '=') with
      | some (start, value) => (start, .equals value)
      | Option.none => (t, .apart)
    (g.table.filter fun entry => start.isPrefixOf entry.1).map fun entry =>
      .known t entry.2 entry.1 given
  | _ =>
    g.table.filterMap fun entry =>
      if entry.1 = t.take 2 then some (.known t entry.2 entry.1 (.attached (t.drop 2)))
      else if t.isPrefixOf entry.1 then some (.known t entry.2 entry.1 .apart)
      else Option.none

/-- The name by which a candidate was recognized. -/
def candidateName : Item σ → Text
  | .known _ _ name _ => name
  | item => item.text

/-- The option whose name stands before an equals sign. -/
def beforeEquals? (g : Grammar σ) (t : Text) : Option (Item σ) := do
  let (name, value) ← t.cutAt (.char '=')
  let rule ← g.rule? name
  pure (.known t rule name (.equals value))

/-- The kind of an argument. -/
def classify (g : Grammar σ) (t : Text) : Except Stop (Item σ) :=
  match t with
  | [] => .ok (.operand t)
  | .char '-' :: more =>
    match g.rule? t with
    | some rule => .ok (.known t rule t .apart)
    | Option.none =>
      if more.isEmpty then .ok (.operand t)
      else match g.beforeEquals? t with
        | some item => .ok item
        | Option.none =>
          match g.candidates t with
          | [item] => .ok item
          | [] =>
            if isNegativeNumber t || t.contains (.char ' ') then .ok (.operand t)
            else .ok (.unknown t)
          | items => .error (g.fault (.ambiguous t (items.map candidateName)))
  | _ => .ok (.operand t)

/-- Short options written together: what follows a short flag is further short options, of
which the last may take the rest as its value. What is no option is left over. -/
def chain (g : Grammar σ) : Text → Except Stop (Expansion σ)
  | [] => .ok ⟨[], .complete⟩
  | c :: more =>
    match g.rule? [.char '-', c] with
    | Option.none => .ok ⟨[], .leftOver (.char '-' :: c :: more)⟩
    | some r =>
      match r.effect, more with
      | .value _, [] => .ok ⟨[], .awaiting r⟩
      | .value _, .char '=' :: value => .ok ⟨[], .value r value⟩
      | .value _, value => .ok ⟨[], .value r value⟩
      | _, .char '=' :: value => .error (g.ruleFault r (.unwantedValue value))
      | _, .char '-' :: value => .error (g.ruleFault r (.unwantedValue (.char '-' :: value)))
      | _, more => (g.chain more).map fun e => ⟨r :: e.flags, e.ending⟩

/-- What an option asks for that was recognized by a name. -/
def expand (g : Grammar σ) (r : Rule σ) : Given → Except Stop (Expansion σ)
  | .apart =>
    match r.effect with
    | .value _ => .ok ⟨[], .awaiting r⟩
    | _ => .ok ⟨[r], .complete⟩
  | .equals value =>
    match r.effect with
    | .value _ => .ok ⟨[], .value r value⟩
    | _ => .error (g.ruleFault r (.unwantedValue value))
  | .attached value =>
    match r.effect, value.head? with
    | .value _, _ => .ok ⟨[], .value r value⟩
    | _, some (.char '-') => .error (g.ruleFault r (.unwantedValue value))
    | _, _ => (g.chain value).map fun e => ⟨r :: e.flags, e.ending⟩

/-- Carries out flags one after the other. -/
def applyFlags (s : σ) : List (Rule σ) → Except Stop σ
  | [] => .ok s
  | r :: rest =>
    match r.effect with
    | .help => .error .help
    | .flag set => applyFlags (set s) rest
    | .value _ => applyFlags s rest

/-- Carries out an option with its value, after the flags that stand before it. -/
def applyValue (g : Grammar σ) (s : σ) (flags : List (Rule σ)) (r : Rule σ) (value : Text) :
    Except Stop σ := do
  let s ← applyFlags s flags
  match r.effect with
  | .value take => (take s value).mapError (g.ruleFault r)
  | _ => pure s

/-- The arguments after the last option: operands, and behind two dashes more operands.
Gives the arguments read and those left over. -/
def finish (operand : Operand σ) (s : σ) (front : List Text) (behind : Option (List Text)) :
    σ × List Text :=
  let dashes : Text := "--"
  let tail : List Text := (behind.map (dashes :: ·)).getD []
  match operand with
  | .none => (s, front ++ tail)
  | .one take =>
    match front, behind with
    | [t], some more => (take s t, more)
    | t :: rest, _ => (take s t, rest ++ tail)
    | [], some (t :: more) => (take s t, more)
    | [], _ => (s, tail)
  | .rest take =>
    match front, behind with
    | _ :: _, _ => (take s (front ++ tail), [])
    | [], some (_ :: _) => (take s tail, [])
    | [], _ => (s, tail)

/-- Holds if no option is left. -/
def noOptions (items : List (Item σ)) : Bool :=
  items.all fun item => match item with
    | .operand _ => true
    | _ => false

/-- Runs over the arguments before the two dashes; `behind` are those after them. -/
def run (g : Grammar σ) (behind : Option (List Text)) (operand : Operand σ) (s : σ) :
    List (Item σ) → Except Stop (σ × List Text)
  | [] => .ok (finish operand s [] behind)
  | .operand t :: rest =>
    if noOptions rest then .ok (finish operand s (t :: rest.map Item.text) behind)
    else match operand with
      | .none => (run g behind .none s rest).map fun found => (found.1, t :: found.2)
      | .one take => run g behind .none (take s t) rest
      | .rest _ => .ok (finish operand s (t :: rest.map Item.text) behind)
  | .unknown t :: rest =>
    (run g behind operand s rest).map fun found => (found.1, t :: found.2)
  | .known _ r _ given :: rest =>
    match g.expand r given with
    | .error stop => .error stop
    | .ok ⟨flags, .complete⟩ =>
      match applyFlags s flags with
      | .ok s => run g behind operand s rest
      | .error stop => .error stop
    | .ok ⟨flags, .leftOver t⟩ =>
      match applyFlags s flags with
      | .ok s => (run g behind operand s rest).map fun found => (found.1, t :: found.2)
      | .error stop => .error stop
    | .ok ⟨flags, .value r value⟩ =>
      match g.applyValue s flags r value with
      | .ok s => run g behind operand s rest
      | .error stop => .error stop
    | .ok ⟨flags, .awaiting r⟩ =>
      match rest with
      | .operand value :: rest =>
        match g.applyValue s flags r value with
        | .ok s => run g behind operand s rest
        | .error stop => .error stop
      | _ => .error (g.ruleFault r .missingValue)

/-- The arguments before two dashes that stand alone, and those after them. -/
def splitDashes : List Text → List Text × Option (List Text)
  | [] => ([], Option.none)
  | t :: rest =>
    if t = Text.ofString "--" then ([], some rest)
    else
      let (front, behind) := splitDashes rest
      (t :: front, behind)

/-- Reads arguments: what they say, and what is left over. -/
def parse (g : Grammar σ) (s : σ) (arguments : List Text) : Except Stop (σ × List Text) :=
  let (front, behind) := splitDashes arguments
  match front.mapM g.classify with
  | .error stop => .error stop
  | .ok items => g.run behind g.operand s items

end Grammar
end SealedPost.Command
