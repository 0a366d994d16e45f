import SealedPost.Wire.Records

/-! # Reading a message

A reader opens their channel, takes the message in its stored form, decrypts it with the
sender's key (or, reading a message of their own, with the first recipient's key that
fits) and checks it against the commitment. -/

namespace SealedPost

/-- Why a message cannot be read. -/
inductive ReadFault where
  | box (fault : BoxFault)
  | noParticipants
  | payloadMalformed
  | commitmentMismatch
deriving DecidableEq

namespace ReadFault

/-- The wording of each failure. -/
def message : ReadFault → Text
  | box fault => fault.message
  | noParticipants => "list index out of range"
  | payloadMalformed => "Stored payload is not an encrypted message"
  | commitmentMismatch => "Metadata commitment does not match the decrypted message"

/-- Holds for the failures that are foreseen: all but a refused key agreement and an
opened channel without participants. -/
def isDeclared : ReadFault → Bool
  | box fault => fault.isDeclared
  | noParticipants => false
  | payloadMalformed => true
  | commitmentMismatch => true

end ReadFault

namespace Correspondence

/-- Decrypts a message from the peer with the given bytes as key. -/
def decryptBody (encrypted : Message) (secretNonce : Nonce) (own : SecretKey) (peer : Bytes) :
    Except BoxFault Message := do
  let peer ← (Material.bytes peer).asPublicKey
  let box ← Box.agree peer own
  box.decryptMessage secretNonce encrypted

/-- Tries peers in order. A foreseen failure moves on to the next peer, any other ends the
search; if no peer is left the last failure is the answer. -/
def searchBody (attempt : Bytes → Except BoxFault Message) :
    (last : BoxFault) → List Bytes → Except BoxFault Message
  | last, [] => .error last
  | _, peer :: rest =>
    match attempt peer with
    | .ok message => .ok message
    | .error fault => if fault.isDeclared then searchBody attempt fault rest else .error fault

/-- The peers whose keys may open a message: the recipients for the sender, the sender for
everyone else. -/
def peers (own : PublicKey) (sender : Bytes) (recipients : List Bytes) : List Bytes :=
  if own.bytes = sender then recipients else [sender]

/-- Reads the message of an opened channel. -/
def readOpened (origin : Bytes) (e : Envelope) (payload : Bytes) (own : SecretKey)
    (found : Discovery) : Except ReadFault Received :=
  match found.participants with
  | [] => .error .noParticipants
  | sender :: recipients =>
    let peers := peers own.publicKey sender recipients
    if peers.isEmpty then .error (.box (.decryptionFailed own.publicKey.bytes))
    else match Message.ofBytes payload with
      | .error _ => .error .payloadMalformed
      | .ok encrypted =>
        let none := BoxFault.decryptionFailed own.publicKey.bytes
        match searchBody (decryptBody encrypted found.secretNonce own) none peers with
        | .error fault => .error (.box fault)
        | .ok message =>
          if e.verifyCommitment found.secretNonce origin sender recipients message then
            .ok ⟨sender, recipients, message⟩
          else .error .commitmentMismatch

/-- Reads a message; the answer is none if the key belongs to no participant. -/
def receive (origin : Bytes) (e : Envelope) (payload : Bytes) (own : Material) :
    Except ReadFault (Option Received) := do
  let own ← own.asSecretKey.mapError .box
  let found ← (e.openWith (.secretKey own)).mapError .box
  match found with
  | none => pure none
  | some found => (readOpened origin e payload own found).map some

end Correspondence
end SealedPost
