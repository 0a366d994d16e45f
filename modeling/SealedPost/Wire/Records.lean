import SealedPost.Envelope
import SealedPost.Json.Reader
import SealedPost.Json.Writer
import SealedPost.Wire.Part

/-! # Records on the wire

The records that are stored, sent and printed, each with its check and its writer. The
members stand in a fixed order, which is part of the format. -/

namespace SealedPost

open Wire

/-- What the ledger announces: the index of the event, the key of the message in the
ledger, and the envelope. -/
structure Announcement where
  index : Int
  key : Bytes
  envelope : Envelope
deriving DecidableEq

/-- An announcement as the public sees it, with the key in hexadecimal. -/
structure PublicAnnouncement where
  index : Int
  key : Text
  envelope : Envelope
deriving DecidableEq

/-- What is posted to the ledger: an envelope and an encrypted message. -/
structure Posting where
  envelope : Envelope
  message : Bytes
deriving DecidableEq

/-- A stored message as the public sees it. -/
structure StoredMessage where
  key : Text
  message : Bytes
deriving DecidableEq

/-- A composed message: the envelope, the secret nonce, which stays with the sender, and
for each recipient the public key and the encrypted message. -/
structure Outgoing where
  envelope : Envelope
  secretNonce : Bytes
  messages : List (Bytes × Bytes)
deriving DecidableEq

/-- A message that has been read. -/
structure Received where
  sender : Bytes
  recipients : List Bytes
  message : Message
deriving DecidableEq

/-- The answer for a channel of somebody else: a record without members. -/
structure NotMine where
deriving DecidableEq

namespace Entry

/-- Reads an entry; the kind may be missing. -/
def ofJson (source : Source) : Json → Checked Entry :=
  record source "MessageEntry" fun members =>
    (((required "key" blob members).both (required "value" blob members)).both
      (defaulted "kind" Kind.raw kindName members)).map
      fun parts => ⟨parts.1.1, parts.1.2, parts.2⟩

/-- Writes an entry. -/
def toJson (e : Entry) : Json :=
  .obj [("key", blobJson e.key), ("value", blobJson e.value), ("kind", .str e.kind.name)]

end Entry

namespace Message

/-- Reads a message; the entries may be missing. -/
def ofJson (source : Source) : Json → Checked Message :=
  record source "Message" fun members =>
    (defaulted "entries" [] (list source (Entry.ofJson source)) members).map Message.mk

/-- Writes a message. -/
def toJson (m : Message) : Json := .obj [("entries", .arr (m.entries.map Entry.toJson))]

/-- The stored form of a message. -/
def toBytes (m : Message) : Bytes := Utf8.encode (Json.writeCompact m.toJson)

end Message

namespace Channel

/-- Reads a channel. -/
def ofJson (source : Source) : Json → Checked Channel :=
  record source "Channel" fun members =>
    ((required "encrypted_secret_nonce" blob members).both
      (required "encrypted_participants" (list source blob) members)).map
      fun parts => ⟨parts.1, parts.2⟩

/-- Writes a channel. -/
def toJson (c : Channel) : Json :=
  .obj [("encrypted_secret_nonce", blobJson c.sealedNonce),
    ("encrypted_participants", .arr (c.sealedParticipants.map blobJson))]

end Channel

namespace Envelope

/-- Reads an envelope. -/
def ofJson (source : Source) : Json → Checked Envelope :=
  record source "MessageMetadata" fun members =>
    ((((required "public_nonce" blob members).both (required "relay_pk" blob members)).both
      (required "commitment_hash" blob members)).both
      (required "channels" (list source (Channel.ofJson source)) members)).map
      fun parts => ⟨parts.1.1.1, parts.1.1.2, parts.1.2, parts.2⟩

/-- Writes an envelope. -/
def toJson (e : Envelope) : Json :=
  .obj [("public_nonce", blobJson e.publicNonce), ("relay_pk", blobJson e.relayKey),
    ("commitment_hash", blobJson e.commitment),
    ("channels", .arr (e.channels.map Channel.toJson))]

end Envelope

namespace Opened

/-- Reads an opened channel. -/
def ofJson (source : Source) : Json → Checked Opened :=
  record source "Opened" fun members =>
    ((required "secret_nonce" blob members).both
      (required "participants" (list source blob) members)).map
      fun parts => ⟨parts.1, parts.2⟩

/-- Writes an opened channel. -/
def toJson (o : Opened) : Json :=
  .obj [("secret_nonce", blobJson o.secretNonce),
    ("participants", .arr (o.participants.map blobJson))]

end Opened

namespace NotMine

/-- Reads a record without members. -/
def ofJson (source : Source) : Json → Checked NotMine :=
  record source "NotMine" fun _ => .ok NotMine.mk

/-- Writes a record without members. -/
def toJson (_ : NotMine) : Json := .obj []

end NotMine

namespace Announcement

/-- Reads an announcement. -/
def ofJson (source : Source) : Json → Checked Announcement :=
  record source "MessageSent" fun members =>
    (((required "index" integer members).both (required "key" blob members)).both
      (required "metadata" (Envelope.ofJson source) members)).map
      fun parts => ⟨parts.1.1, parts.1.2, parts.2⟩

/-- Writes an announcement. -/
def toJson (a : Announcement) : Json :=
  .obj [("index", .int a.index), ("key", blobJson a.key), ("metadata", a.envelope.toJson)]

/-- What the public sees of an announcement. -/
def toPublic (a : Announcement) : PublicAnnouncement := ⟨a.index, Bytes.toHex a.key, a.envelope⟩

end Announcement

namespace PublicAnnouncement

/-- Reads a public announcement. -/
def ofJson (source : Source) : Json → Checked PublicAnnouncement :=
  record source "MessageSentOut" fun members =>
    (((required "index" integer members).both (required "key" textual members)).both
      (required "metadata" (Envelope.ofJson source) members)).map
      fun parts => ⟨parts.1.1, parts.1.2, parts.2⟩

/-- Writes a public announcement. -/
def toJson (a : PublicAnnouncement) : Json :=
  .obj [("index", .int a.index), ("key", .str a.key), ("metadata", a.envelope.toJson)]

end PublicAnnouncement

namespace Posting

/-- Reads a posting. -/
def ofJson (source : Source) : Json → Checked Posting :=
  record source "SendMessageIn" fun members =>
    ((required "metadata" (Envelope.ofJson source) members).both
      (required "message" blob members)).map
      fun parts => ⟨parts.1, parts.2⟩

/-- Writes a posting. -/
def toJson (p : Posting) : Json :=
  .obj [("metadata", p.envelope.toJson), ("message", blobJson p.message)]

end Posting

namespace StoredMessage

/-- Reads a stored message. -/
def ofJson (source : Source) : Json → Checked StoredMessage :=
  record source "StoredMessageOut" fun members =>
    ((required "key" textual members).both (required "message" blob members)).map
      fun parts => ⟨parts.1, parts.2⟩

/-- Writes a stored message. -/
def toJson (m : StoredMessage) : Json :=
  .obj [("key", .str m.key), ("message", blobJson m.message)]

end StoredMessage

namespace Outgoing

/-- Reads a composed message. -/
def ofJson (source : Source) : Json → Checked Outgoing :=
  record source "Outgoing" fun members =>
    (((required "metadata" (Envelope.ofJson source) members).both
      (required "secret_nonce" blob members)).both
      (required "messages" (list source (pair source blob blob)) members)).map
      fun parts => ⟨parts.1.1, parts.1.2, parts.2⟩

/-- The encrypted messages with their recipients. -/
def messagesJson (o : Outgoing) : Json :=
  .arr (o.messages.map fun m => .arr [blobJson m.1, blobJson m.2])

/-- Writes a composed message in full. -/
def toJson (o : Outgoing) : Json :=
  .obj [("metadata", o.envelope.toJson), ("secret_nonce", blobJson o.secretNonce),
    ("messages", o.messagesJson)]

/-- Writes a composed message without the secret nonce. -/
def toPublicJson (o : Outgoing) : Json :=
  .obj [("metadata", o.envelope.toJson), ("messages", o.messagesJson)]

end Outgoing

namespace Received

/-- Reads a message that has been read. -/
def ofJson (source : Source) : Json → Checked Received :=
  record source "Received" fun members =>
    (((required "sender" blob members).both
      (required "recipients" (list source blob) members)).both
      (required "message" (Message.ofJson source) members)).map
      fun parts => ⟨parts.1.1, parts.1.2, parts.2⟩

/-- Writes a message that has been read. -/
def toJson (r : Received) : Json :=
  .obj [("sender", blobJson r.sender), ("recipients", .arr (r.recipients.map blobJson)),
    ("message", r.message.toJson)]

end Received

/-- Reads a record from its stored bytes: what is no JSON is one violation at the top. -/
def Wire.readStored {α : Type} (check : Source → Json → Checked α) (bytes : Bytes) : Checked α :=
  match Json.readStored? bytes with
  | some v => check .stored v
  | none => .refuse .unreadable

/-- As `readStored`, from the text that the bytes encode; one with a lone surrogate encodes
none, and that is the one violation. -/
def Wire.readStoredText {α : Type} (check : Source → Json → Checked α) (t : Text) : Checked α :=
  match Utf8.encode? t with
  | some bytes => readStored check bytes
  | none => .refuse .notEncodable

/-- Reads a message from its stored bytes. -/
def Message.ofBytes (bytes : Bytes) : Checked Message := readStored Message.ofJson bytes

end SealedPost
