import SealedPost.Command.Outcome

/-! # The command line

The outer layer of the program: it hands over the arguments, randomness and the content of
files, prints the outcome and sets the exit status. -/

namespace SealedPost.Terminal

open Command

/-- A text for a terminal; a lone surrogate, which has no encoding, is replaced. -/
def ofText (t : Text) : String :=
  String.ofList (t.map fun c => c.toChar?.getD '\uFFFD')

/-- The content of the file that a command reads, or why it cannot be opened. -/
def content (path : Text) : IO (Except FileFault Bytes) := do
  try
    let content ← IO.FS.readBinFile (ofText path)
    pure (.ok content.toList)
  catch _ => pure (.error (.notFound path))

/-- The room on a stack of a thousand frames, nine of which are taken before a document is read. A
word for a number takes one frame more, and the report on a malformed place three. -/
def room : Parcel.Room := ⟨⟨991, 990, 988⟩, by decide⟩

/-- Prints an outcome and gives its exit status. -/
def print : Outcome → IO UInt32
  | .ok out => do
    IO.print (ofText out)
    pure 0
  | .error failure => do
    IO.eprintln (ofText failure.message)
    pure (UInt32.ofNat failure.status)

end SealedPost.Terminal

open SealedPost Command

/-- Runs the command that the arguments name. -/
def main (arguments : List String) : IO UInt32 := do
  match Invocation.ofArguments (arguments.map Text.ofString) with
  | .error .help =>
    IO.println "usage: nolik [-h] [-v] keygen | compose | read"
    pure 0
  | .error (.usage fault) => Terminal.print (.error (.usage fault))
  | .ok invocation =>
    let randomness ← IO.getRandomBytes 128
    let contents ← match invocation with
      | .read o => Terminal.content o.input
      | _ => pure (.ok [])
    Terminal.print (invocation.run Terminal.room ⟨randomness.toList⟩ fun _ => contents)
