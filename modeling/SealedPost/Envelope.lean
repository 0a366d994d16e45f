import SealedPost.Box
import SealedPost.Commitment

/-! # Envelopes

An envelope has one channel for each participant, the sender first. A channel holds the
secret nonce, sealed under the public nonce, and the list of participants, sealed under
the secret nonce, all in the box between a one-time relay key and the participant. No
channel names its owner: a participant finds theirs by trying each one. -/

namespace SealedPost

/-- The sealed nonce and participants for one participant. -/
structure Channel where
  sealedNonce : Bytes
  sealedParticipants : List Bytes
deriving DecidableEq

/-- The metadata that travels with a message. -/
structure Envelope where
  publicNonce : Bytes
  relayKey : Bytes
  commitment : Bytes
  channels : List Channel
deriving DecidableEq

/-- The plan for a channel: the sealing of the nonce and those of the participants. -/
structure ChannelPlan where
  nonce : Sealing
  participants : List Sealing

/-- The channel that a plan gives. -/
def ChannelPlan.channel (p : ChannelPlan) : Channel :=
  ⟨p.nonce.ciphertext, p.participants.map Sealing.ciphertext⟩

/-- The sealings of a plan, in the order in which they are done. -/
def ChannelPlan.sealings (p : ChannelPlan) : List Sealing := p.nonce :: p.participants

/-- An opened channel. -/
structure Discovery where
  secretNonce : Nonce
  participants : List Bytes
deriving DecidableEq

/-- An opened channel as it is stored: blobs of any length. -/
structure Opened where
  secretNonce : Bytes
  participants : List Bytes
deriving DecidableEq

/-- A discovery in its stored form. -/
def Discovery.opened (d : Discovery) : Opened := ⟨d.secretNonce.bytes, d.participants⟩

/-- The sender is the first participant; there may be none. -/
def Opened.sender? (o : Opened) : Option Bytes := o.participants.head?

/-- The recipients are the participants after the first. -/
def Opened.recipients (o : Opened) : List Bytes := o.participants.drop 1

namespace Channel

/-- The plan for the channel of one party, whose list names all parties. -/
def plan (box : Box) (publicNonce secretNonce : Nonce) (parties : List PublicKey) :
    ChannelPlan where
  nonce := box.sealing publicNonce secretNonce.bytes
  participants := parties.map fun p => box.sealing secretNonce p.bytes

/-- Tries to open a channel in a box. If the sealed nonce is not authentic the channel is
someone else's; from there on every failure is a failure of the envelope. -/
def scan (box : Box) (publicNonce : Nonce) (c : Channel) :
    Except BoxFault (Option Discovery) :=
  match box.decrypt? publicNonce c.sealedNonce with
  | none => .ok none
  | some bytes => do
    let secretNonce ← (Material.bytes bytes).nonce
    let participants ← c.sealedParticipants.mapM (box.decrypt secretNonce)
    pure (some ⟨secretNonce, participants⟩)

/-- Tries to open a channel with material: the box is made before the nonce is taken. -/
def scanWith (c : Channel) (publicNonce relayKey own : Material) :
    Except BoxFault (Option Discovery) := do
  let box ← Box.ofMaterial relayKey own
  let publicNonce ← publicNonce.nonce
  c.scan box publicNonce

end Channel

namespace Envelope

/-- The plans for the channels of all parties. -/
def planChannels (publicNonce secretNonce : Nonce) (relay : SecretKey)
    (parties : List PublicKey) : Except BoxFault (List ChannelPlan) :=
  parties.mapM fun party => do
    let box ← Box.agree party relay
    pure (Channel.plan box publicNonce secretNonce parties)

/-- The envelope for given plans. -/
def assemble (origin : Bytes) (publicNonce secretNonce : Nonce) (relay : SecretKey)
    (sender : PublicKey) (recipients : List PublicKey) (message : Message)
    (plans : List ChannelPlan) : Envelope where
  publicNonce := publicNonce.bytes
  relayKey := relay.publicKey.bytes
  commitment := Commitment.Subject.digest
    { origin := origin, publicNonce := publicNonce.bytes, sender := sender.bytes,
      relay := relay.publicKey.bytes, secretNonce := secretNonce,
      recipients := recipients.map PublicKey.bytes, message := message }
  channels := plans.map ChannelPlan.channel

/-- The envelope for a message under a secret nonce and a one-time relay key. -/
def build (origin : Bytes) (publicNonce secretNonce : Nonce) (relay : SecretKey)
    (sender : PublicKey) (recipients : List PublicKey) (message : Message) :
    Except BoxFault Envelope := do
  let plans ← planChannels publicNonce secretNonce relay (sender :: recipients)
  pure (assemble origin publicNonce secretNonce relay sender recipients message plans)

/-- Tries one channel, in a box made for it. -/
def scanChannel (publicNonce : Nonce) (relayKey : PublicKey) (own : SecretKey)
    (c : Channel) : Except BoxFault (Option Discovery) := do
  let box ← Box.agree relayKey own
  c.scan box publicNonce

/-- What a reading of the channels needs: the nonce and the relay key of the envelope and
one's own key, taken in this order. -/
def scanner (e : Envelope) (own : Material) :
    Except BoxFault (Channel → Except BoxFault (Option Discovery)) := do
  let publicNonce ← (Material.bytes e.publicNonce).nonce
  let relayKey ← (Material.bytes e.relayKey).asPublicKey
  let own ← own.asSecretKey
  pure (scanChannel publicNonce relayKey own)

/-- The first channel that opens, if any. Channels after it are not tried. -/
def firstOpen (scan : Channel → Except BoxFault (Option Discovery)) :
    List Channel → Except BoxFault (Option Discovery)
  | [] => .ok none
  | c :: rest =>
    match scan c with
    | .error fault => .error fault
    | .ok (some d) => .ok (some d)
    | .ok none => firstOpen scan rest

/-- All channels that open, in order. -/
def allOpen (scan : Channel → Except BoxFault (Option Discovery)) (channels : List Channel) :
    Except BoxFault (List Discovery) := do
  let results ← channels.mapM scan
  pure (results.filterMap id)

/-- One's own channel of an envelope, none if one is no participant. -/
def openWith (e : Envelope) (own : Material) : Except BoxFault (Option Discovery) := do
  let scan ← e.scanner own
  firstOpen scan e.channels

/-- The envelope with only the channels that open, in the clear. -/
def decryptWith (e : Envelope) (own : Material) : Except BoxFault Envelope := do
  let scan ← e.scanner own
  let found ← allOpen scan e.channels
  pure { e with channels := found.map fun d => ⟨d.secretNonce.bytes, d.participants⟩ }

/-- Whether the commitment of an envelope is the one to what is given. -/
def verifyCommitment (e : Envelope) (secretNonce : Nonce) (origin sender : Bytes)
    (recipients : List Bytes) (message : Message) : Bool :=
  Commitment.Subject.digest
    { origin := origin, publicNonce := e.publicNonce, sender := sender, relay := e.relayKey,
      secretNonce := secretNonce, recipients := recipients, message := message }
    == e.commitment

end Envelope
end SealedPost
