import SealedPost.Command.Directory
import SealedPost.Command.Invocation
import SealedPost.Command.Parcel
import SealedPost.Correspondence.Compose
import SealedPost.Correspondence.Read

/-! # Outcomes of commands

A command prints a document, or it fails for a reason and prints none. The reason decides
the exit status: 2 if the arguments are at fault, 1 otherwise, be the reason foreseen or not. -/

namespace SealedPost.Command

/-- Why a command fails. -/
inductive Failure where
  | usage (fault : UsageFault)
  | file (path : Text) (fault : FileFault)
  | parcel (path : Text) (fault : ParcelFault)
  | tooDeep
  | noMessages
  | read (fault : ReadFault)
  | notParticipant

namespace Failure

/-- The line that tells of a failure. -/
def message : Failure → Text
  | usage fault => fault.message
  | file path fault => "invalid input " ++ path ++ ": " ++ fault.message
  | parcel path fault => "invalid input " ++ path ++ ": " ++ fault.message
  | tooDeep => Json.Fault.message [] .tooDeep
  | noMessages => "no message payloads in input"
  | read fault => fault.message
  | notParticipant => "not a participant of this message"

/-- The exit status of a failure. -/
def status : Failure → Nat
  | usage _ => 2
  | _ => 1

/-- Holds for the failures that are foreseen: all but a document that is nested too deep and
those of reading that are not. -/
def isDeclared : Failure → Bool
  | tooDeep => false
  | read fault => fault.isDeclared
  | _ => true

end Failure

/-- What a command prints if it succeeds, the line break at the end included. -/
abbrev Outcome := Except Failure Text

/-- A document on a line of its own. -/
def line (style : Json.Style) (v : Json) : Text := Json.write style v ++ [.char '\n']

/-- Makes a pair of keys. -/
def keygen (entropy : Entropy) : Outcome :=
  let own := entropy.secretKey.1
  .ok (line .spaced (.obj
    [("public_key", Wire.blobJson own.publicKey.bytes), ("secret_key", Wire.blobJson own.bytes)]))

/-- The message that is composed. -/
def ComposeOptions.message (o : ComposeOptions) : Message :=
  ⟨o.entries.map fun e => ⟨e.1, e.2, o.kind⟩⟩

/-- Composes a message and prints it as a parcel. -/
def compose (o : ComposeOptions) (entropy : Entropy) : Outcome :=
  match Correspondence.compose o.origin (.bytes o.secretKey) (o.recipients.map Material.bytes)
      o.message none entropy with
  | .error fault => .error (.read (.box fault))
  | .ok outgoing => .ok (line .compact outgoing.toPublicJson)

/-- An entry of a message that has been read; what is no text is shown as well as it can
be. -/
def entryShown (e : Entry) : Json :=
  .obj [("key", .str (Utf8.decodeReplacing e.key)), ("value", .str (Utf8.decodeReplacing e.value)),
    ("kind", .str e.kind.name)]

/-- A message that has been read. -/
def receivedShown (r : Received) : Json :=
  .obj [("sender", Wire.blobJson r.sender), ("recipients", .arr (r.recipients.map Wire.blobJson)),
    ("entries", .arr (r.message.entries.map entryShown))]

/-- Reads the message of a parcel with one's own key. -/
def readParcel (o : ReadOptions) (p : Parcel) : Outcome :=
  match p.messages with
  | [] => .error .noMessages
  | first :: rest => do
    let own ← (Material.bytes o.secretKey).asSecretKey.mapError fun fault => .read (.box fault)
    let payload := Parcel.payloadFor own.publicKey.bytes first rest
    match Correspondence.receive o.origin p.envelope payload (.secretKey own) with
    | .error fault => .error (.read fault)
    | .ok none => .error .notParticipant
    | .ok (some received) => .ok (line .spaced (receivedShown received))

/-- Reads a message from the content of its file. -/
def read (room : Parcel.Room) (o : ReadOptions) (content : Bytes) : Outcome :=
  match Parcel.ofBytes room content with
  | .error fault => .error (if fault.isReported then .parcel o.input fault else .tooDeep)
  | .ok p => readParcel o p

/-- Carries out a command; `contentOf` gives the content of files. -/
def Invocation.run (room : Parcel.Room) (entropy : Entropy)
    (contentOf : Text → Except FileFault Bytes) : Invocation → Outcome
  | .keygen => Command.keygen entropy
  | .compose o => Command.compose o entropy
  | .read o =>
    match contentOf o.input with
    | .error fault => .error (.file o.input fault)
    | .ok content => Command.read room o content

end SealedPost.Command
