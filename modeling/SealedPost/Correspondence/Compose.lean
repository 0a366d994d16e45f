import SealedPost.Entropy
import SealedPost.Wire.Records

/-! # Composing a message

A composition is a plan: the channels of the envelope and, for each recipient, a copy of
the message. Carrying it out encrypts what the plan lists and nothing else, so what is
said about the sealings of a plan holds of the message that is sent. -/

namespace SealedPost

/-- The copy for one recipient. -/
structure CopyPlan where
  recipient : PublicKey
  entries : List EntryPlan

/-- The plan for a message to a list of recipients. -/
structure Composition where
  origin : Bytes
  publicNonce : Nonce
  secretNonce : Nonce
  relay : SecretKey
  sender : PublicKey
  recipients : List PublicKey
  message : Message
  channels : List ChannelPlan
  copies : List CopyPlan

namespace Composition

/-- All encryptions of a composition, those of the envelope first. -/
def sealings (c : Composition) : List Sealing :=
  c.channels.flatMap ChannelPlan.sealings
    ++ c.copies.flatMap fun copy => copy.entries.flatMap EntryPlan.sealings

/-- The envelope of a composition. -/
def envelope (c : Composition) : Envelope :=
  Envelope.assemble c.origin c.publicNonce c.secretNonce c.relay c.sender c.recipients
    c.message c.channels

/-- The encrypted message for a recipient, in stored form. -/
def payload (copy : CopyPlan) : Bytes :=
  Message.toBytes ⟨copy.entries.map EntryPlan.entry⟩

/-- The composed message. -/
def outgoing (c : Composition) : Outgoing where
  envelope := c.envelope
  secretNonce := c.secretNonce.bytes
  messages := c.copies.map fun copy => (copy.recipient.bytes, payload copy)

/-- Plans a message: a box from the relay key to each participant for the envelope, and
one from the sender to each recipient for the copies. -/
def plan (origin : Bytes) (own : SecretKey) (recipients : List PublicKey) (message : Message)
    (publicNonce secretNonce : Nonce) (relay : SecretKey) : Except BoxFault Composition := do
  let sender := own.publicKey
  let channels ← Envelope.planChannels publicNonce secretNonce relay (sender :: recipients)
  let copies ← recipients.mapM fun recipient => do
    let box ← Box.agree recipient own
    pure { recipient := recipient, entries := box.planMessage secretNonce message : CopyPlan }
  pure
    { origin := origin, publicNonce := publicNonce, secretNonce := secretNonce,
      relay := relay, sender := sender, recipients := recipients, message := message,
      channels := channels, copies := copies }

end Composition

/-- Plans a message from material. A public nonce is drawn if none is given; the secret
nonce and the relay key are always drawn. -/
def Correspondence.composition (origin : Bytes) (own : Material) (recipients : List Material)
    (message : Message) (publicNonce : Option Material) (entropy : Entropy) :
    Except BoxFault Composition := do
  let own ← own.asSecretKey
  let drawn := entropy.nonce
  let (publicNonce, entropy) :=
    match publicNonce with
    | some given => (given, entropy)
    | none => (Material.bytes drawn.1.bytes, drawn.2)
  let recipients ← recipients.mapM Material.asPublicKey
  let publicNonce ← publicNonce.nonce
  let (secretNonce, entropy) := entropy.nonce
  let (relay, _) := entropy.secretKey
  Composition.plan origin own recipients message publicNonce secretNonce relay

/-- Composes a message from material: plans it and carries the plan out. -/
def Correspondence.compose (origin : Bytes) (own : Material) (recipients : List Material)
    (message : Message) (publicNonce : Option Material) (entropy : Entropy) :
    Except BoxFault Outgoing := do
  let plan ← composition origin own recipients message publicNonce entropy
  pure plan.outgoing

/-- Builds an envelope from material; the secret nonce and the relay key are drawn. Gives
the secret nonce beside the envelope. -/
def Envelope.draft (origin : Bytes) (publicNonce sender : Material)
    (recipients : List Material) (message : Message) (entropy : Entropy) :
    Except BoxFault (Envelope × Nonce) := do
  let publicNonce ← publicNonce.nonce
  let sender ← sender.asPublicKey
  let recipients ← recipients.mapM Material.asPublicKey
  let (secretNonce, entropy) := entropy.nonce
  let (relay, _) := entropy.secretKey
  let envelope ← Envelope.build origin publicNonce secretNonce relay sender recipients message
  pure (envelope, secretNonce)

end SealedPost
