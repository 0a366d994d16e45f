import SealedPost.Correspondence.Compose
import SealedPost.Correspondence.Read
import SealedPost.Ledger

/-! # Data handed in as material

Not only keys and nonces but also data may be handed in as material of any kind. Here the
operations take their data from material. A fault of the data shows at the moment at which
the operation needs them, so an earlier check of the operation wins over it. -/

namespace SealedPost

/-- Why material does not give data. -/
inductive DataFault where
  | nothing
  | text
  | negativeCount
  | countTooLarge
  | textSalt
  | noSalt
deriving DecidableEq

/-- The wording of each fault. -/
def DataFault.message : DataFault → Text
  | nothing => "cannot convert 'NoneType' object to bytes"
  | text => "string argument without an encoding"
  | negativeCount => "negative count"
  | countTooLarge => "cannot fit 'int' into an index-sized integer"
  | textSalt => "Strings must be encoded before hashing"
  | noSalt => "object supporting the buffer API required"

/-- The bound of the numbers that may count bytes. -/
def countBound : Int := Nat.pow 2 63

namespace Material

/-- Material as data: raw bytes, the bytes of a key, or as many zeros as a number says. -/
def data : Material → Except DataFault Bytes
  | nothing => .error .nothing
  | bytes b => .ok b
  | buffer b => .ok b
  | text _ => .error .text
  | number n =>
    if n < -countBound ∨ countBound ≤ n then .error .countTooLarge
    else if n < 0 then .error .negativeCount
    else .ok (List.replicate n.toNat 0)
  | publicKey key => .ok key.bytes
  | secretKey key => .ok key.bytes

/-- Material that is hashed after data: raw bytes only. -/
def salt : Material → Except DataFault Bytes
  | bytes b => .ok b
  | buffer b => .ok b
  | text _ => .error .textSalt
  | _ => .error .noSalt

/-- Holds for material that counts as absent: nothing, what is empty, and zero. -/
def isAbsent : Material → Bool
  | nothing => true
  | bytes b => b.isEmpty
  | buffer b => b.isEmpty
  | text t => t.isEmpty
  | number n => n == 0
  | publicKey _ => false
  | secretKey _ => false

/-- The stored document in material: raw bytes, or the encoding of a text. -/
def document? : Material → Option Bytes
  | bytes b => some b
  | buffer b => some b
  | text t => Utf8.encode? t
  | _ => none

end Material

namespace Intake

/-- Why an operation on material fails: its data are none, or it is refused. -/
inductive Fault (ε : Type) where
  | data (fault : DataFault)
  | refused (fault : ε)

/-- The result of a step that has its data. -/
def step {ε α : Type} (result : Except ε α) : Except (Fault ε) α := result.mapError .refused

/-- The data in material. -/
def dataOf {ε : Type} (m : Material) : Except (Fault ε) Bytes := m.data.mapError .data

/-- Encrypts data in a box; they are taken before the nonce. -/
def encrypt (box : Box) (nonce data : Material) : Except (Fault BoxFault) Bytes := do
  let data ← dataOf data
  let nonce ← step nonce.nonce
  pure (box.encrypt nonce data)

/-- Decrypts data in a box, if they are authentic; they are taken after the nonce. -/
def tryDecrypt (box : Box) (nonce data : Material) :
    Except (Fault BoxFault) (Option Bytes) := do
  let nonce ← step nonce.nonce
  let data ← dataOf data
  pure (box.decrypt? nonce data)

/-- Decrypts data in a box; they are taken after the nonce. -/
def decrypt (box : Box) (nonce data : Material) : Except (Fault BoxFault) Bytes := do
  let nonce ← step nonce.nonce
  let data ← dataOf data
  step (box.decrypt nonce data)

/-- Encrypts data for a peer. The nonce is checked before the keys, the data last. -/
def encryptFor (data nonce peer own : Material) : Except (Fault BoxFault) Bytes := do
  let _ ← step nonce.nonce
  let box ← step (Box.ofMaterial peer own)
  encrypt box nonce data

/-- Decrypts data from a peer. The nonce is checked before the keys, the data last. -/
def decryptFrom (data nonce peer own : Material) : Except (Fault BoxFault) Bytes := do
  let _ ← step nonce.nonce
  let box ← step (Box.ofMaterial peer own)
  decrypt box nonce data

/-- The salted digest of data. -/
def saltedDigest (data nonce : Material) : Except DataFault Bytes := do
  let data ← data.data
  let nonce ← nonce.salt
  pure (Commitment.saltedDigest data nonce)

/-- The commitment to fields in material, the recipients first. -/
def commitment (origin publicNonce sender relay secretNonce : Material)
    (recipients : List Material) (message : Message) : Except (Fault BoxFault) Bytes := do
  let secretNonce ← step secretNonce.nonce
  let recipients ← recipients.mapM dataOf
  let origin ← dataOf origin
  let publicNonce ← dataOf publicNonce
  let relay ← dataOf relay
  let sender ← dataOf sender
  pure (Commitment.Subject.digest
    { origin := origin, publicNonce := publicNonce, sender := sender, relay := relay,
      secretNonce := secretNonce, recipients := recipients, message := message })

/-- Whether the commitment of an envelope is the one to fields in material. -/
def verifyCommitment (e : Envelope) (origin sender secretNonce : Material)
    (recipients : List Material) (message : Message) : Except (Fault BoxFault) Bool := do
  let digest ← commitment origin (.bytes e.publicNonce) sender (.bytes e.relayKey) secretNonce
    recipients message
  pure (digest == e.commitment)

/-- An operation that needs an account only after all of its checks: it runs with an empty
one in place of a faulty one, whose fault then wins over the result. -/
def withAccount {ε α : Type} (account : Material) (run : Bytes → Except ε α) :
    Except (Fault ε) α := do
  let result ← step (run (account.data.toOption.getD []))
  let _ ← dataOf account
  pure result

/-- Builds an envelope. -/
def draft (origin publicNonce sender : Material) (recipients : List Material)
    (message : Message) (entropy : Entropy) : Except (Fault BoxFault) (Envelope × Nonce) :=
  withAccount origin fun origin =>
    Envelope.draft origin publicNonce sender recipients message entropy

/-- Composes a message. -/
def compose (origin own : Material) (recipients : List Material) (message : Message)
    (publicNonce : Option Material) (entropy : Entropy) :
    Except (Fault BoxFault) Outgoing :=
  withAccount origin fun origin =>
    Correspondence.compose origin own recipients message publicNonce entropy

/-- Reads a message. The payload is a stored document; the origin is needed for the
commitment only, so its fault wins over a mismatch and leaves other refusals alone. -/
def receive (origin : Material) (e : Envelope) (payload own : Material) :
    Except (Fault ReadFault) (Option Received) :=
  let payload := payload.document?.getD []
  let origin' := origin.data.toOption.getD []
  match Correspondence.receive origin' e payload own with
  | .ok (some received) => do
    let _ ← dataOf origin
    pure (some received)
  | .error .commitmentMismatch => do
    let _ ← dataOf origin
    .error (.refused .commitmentMismatch)
  | result => step result

/-- The key of a message in the ledger. -/
def ledgerKey (account : Material) (counter : Int) : Except (Fault LedgerFault) Bytes := do
  let account ← dataOf account
  step (Ledger.key account counter)

/-- Whether a message that is not absent and its envelope have the right shape. -/
def check (message : Material) (e : Envelope) : Except LedgerFault Unit :=
  Ledger.check (if message.isAbsent then [] else [0]) e

/-- Takes a message of an account into the ledger. -/
def send (l : Ledger) (account : Material) (e : Envelope) (message : Material) :
    Except (Fault LedgerFault) (Announcement × Ledger) := do
  step (check message e)
  if Ledger.counterLimit ≤ l.counter then throw (.refused .counterExhausted)
  let key ← ledgerKey account l.counter
  let message ← dataOf message
  pure (l.store key e message)

/-- The message of a key in the ledger. -/
def fetch (l : Ledger) (key : Material) : Except DataFault (Option Bytes) :=
  key.data.map l.get?

end Intake
end SealedPost
