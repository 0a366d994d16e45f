import SealedPost.Wire.Records

/-! # The ledger

The ledger stores encrypted messages under the sender's account and a running number, and
announces each with its envelope. Storing and announcing are one step, so whoever sees an
announcement can fetch the message. -/

namespace SealedPost

/-- What is wrong with the shape of an envelope. -/
inductive ShapeDefect where
  | noChannels
  | emptyNonce
  | participantCount
  | emptyParticipant
deriving DecidableEq

/-- The wording of each defect. -/
def ShapeDefect.message : ShapeDefect → Text
  | noChannels => "no channels"
  | emptyNonce => "empty channel nonce"
  | participantCount => "participant count does not match channel count"
  | emptyParticipant => "empty participant"

/-- Why the ledger refuses a message. -/
inductive LedgerFault where
  | emptyMessage
  | envelopeShape (defect : ShapeDefect)
  | counterExhausted
  | negativeCounter
  | counterTooLarge
deriving DecidableEq

/-- The wording of each refusal. -/
def LedgerFault.message : LedgerFault → Text
  | emptyMessage => "Message has a bad format"
  | envelopeShape defect => "Message metadata has a bad format: " ++ defect.message
  | counterExhausted => "Too many messages sent"
  | negativeCounter => "can't convert negative int to unsigned"
  | counterTooLarge => "int too big to convert"

namespace Channel

/-- The first defect of a channel in an envelope of a given number of channels. -/
def defect? (count : Nat) (c : Channel) : Option ShapeDefect :=
  if c.sealedNonce.isEmpty then some .emptyNonce
  else if c.sealedParticipants.length ≠ count then some .participantCount
  else if c.sealedParticipants.any List.isEmpty then some .emptyParticipant
  else none

end Channel

/-- The first defect of an envelope, channel by channel. -/
def Envelope.defect? (e : Envelope) : Option ShapeDefect :=
  if e.channels.isEmpty then some .noChannels
  else e.channels.findSome? (Channel.defect? e.channels.length)

/-- The ledger: the messages by key, the announcements in order, and the number that the
next message gets. -/
structure Ledger where
  messages : List (Bytes × Bytes)
  events : List Announcement
  counter : Int

namespace Ledger

/-- The greatest number that sixteen bytes hold. -/
def counterLimit : Int := Nat.pow 2 128 - 1

/-- A ledger without messages. -/
def empty (counter : Int) : Ledger := ⟨[], [], counter⟩

/-- Whether a message and its envelope have the right shape; the message is looked at
first. -/
def check (message : Bytes) (e : Envelope) : Except LedgerFault Unit :=
  if message.isEmpty then .error .emptyMessage
  else match e.defect? with
    | some defect => .error (.envelopeShape defect)
    | none => .ok ()

/-- The key of a message: the account, then the number in sixteen bytes. -/
def key (account : Bytes) (counter : Int) : Except LedgerFault Bytes :=
  if counter < 0 then .error .negativeCounter
  else if counterLimit < counter then .error .counterTooLarge
  else .ok (account ++ Bytes.ofNat 16 counter.toNat)

/-- Sets the message of a key. -/
def setMessage (key message : Bytes) : List (Bytes × Bytes) → List (Bytes × Bytes)
  | [] => [(key, message)]
  | (k, m) :: rest =>
    if k = key then (key, message) :: rest else (k, m) :: setMessage key message rest

/-- Stores a message under a key and announces it. -/
def store (l : Ledger) (key : Bytes) (e : Envelope) (message : Bytes) : Announcement × Ledger :=
  let event : Announcement := ⟨l.events.length, key, e⟩
  (event, ⟨setMessage key message l.messages, l.events ++ [event], l.counter + 1⟩)

/-- Takes a message of an account. A refusal leaves the ledger as it was. -/
def send (l : Ledger) (account : Bytes) (e : Envelope) (message : Bytes) :
    Except LedgerFault (Announcement × Ledger) := do
  check message e
  if counterLimit ≤ l.counter then throw .counterExhausted
  let key ← key account l.counter
  pure (l.store key e message)

/-- The message of a key. -/
def get? (l : Ledger) (key : Bytes) : Option Bytes := l.messages.lookup key

/-- The announcements from an index on; all of them from a negative one on. -/
def eventsSince (l : Ledger) (since : Int) : List Announcement := l.events.drop since.toNat

theorem lookup_setMessage_self (key message : Bytes) (messages : List (Bytes × Bytes)) :
    (setMessage key message messages).lookup key = some message := by
  induction messages with
  | nil => simp [setMessage]
  | cons m rest ih =>
    by_cases h : m.1 = key
    · simp [setMessage, h]
    · have hne : (key == m.1) = false := by simp [Ne.symm h]
      rw [setMessage, if_neg h, List.lookup_cons, hne]
      exact ih

end Ledger
end SealedPost
