import SealedPost.Proofs.Correspondence.Commitment
import SealedPost.Proofs.Correspondence.Nonces
import SealedPost.Proofs.Correspondence.Tampering
import SealedPost.Proofs.Wire.Sizes

/-!
# What lengths tell

Sealing makes bytes longer by a fixed amount, and a channel has one sealed key for each party. So
the lengths in an envelope depend on the number of its parties and on nothing else, and those of a
copy on the shape of the message: neither keys nor nonces, positions or contents show in them.
-/

namespace SealedPost

theorem Box.length_encrypt (box : Box) (nonce : Nonce) (plaintext : Bytes) :
    (box.encrypt nonce plaintext).length = plaintext.length + 16 :=
  Crypto.SecretBox.length_encrypt ..

/-- Encrypting a message makes keys and values longer and leaves the rest. -/
theorem Box.shape_encryptMessage (box : Box) (nonce : Nonce) (m : Message) :
    (box.encryptMessage nonce m).shape =
      m.shape.map fun entry => (entry.1 + 16, entry.2.1 + 16, entry.2.2) := by
  rw [encryptMessage, planMessage, Message.shape, Message.shape, List.map_map, List.map_map,
    List.map_map]
  refine List.map_congr_left ?_
  intro e he
  exact Prod.ext (box.length_encrypt nonce e.key)
    (Prod.ext (box.length_encrypt nonce e.value) rfl)

/-- A planned channel seals a nonce of 24 bytes and a key of 32 bytes for each party. -/
theorem Channel.shaped_plan (box : Box) (publicNonce secretNonce : Nonce)
    (parties : List PublicKey) :
    (plan box publicNonce secretNonce parties).channel.Shaped parties.length where
  nonce := by
    calc
      (box.encrypt publicNonce secretNonce.bytes).length = secretNonce.bytes.length + 16 :=
        box.length_encrypt publicNonce secretNonce.bytes
      _ = 40 := by rw [secretNonce.length_bytes]
  count := by rw [ChannelPlan.channel, plan, List.length_map, List.length_map]
  participants := by
    intro sealed hsealed
    rw [ChannelPlan.channel, plan, List.map_map] at hsealed
    obtain ⟨party, -, rfl⟩ := List.mem_map.mp hsealed
    calc
      (box.encrypt secretNonce party.bytes).length = party.bytes.length + 16 :=
        box.length_encrypt secretNonce party.bytes
      _ = 48 := by rw [party.length_bytes]

namespace Envelope

/-- What is assembled around planned channels has the lengths of an envelope for the sender and
the recipients. -/
theorem shaped_assemble {publicNonce secretNonce : Nonce} {relay : SecretKey} {sender : PublicKey}
    {recipients : List PublicKey} {plans : List ChannelPlan}
    (hplans : planChannels publicNonce secretNonce relay (sender :: recipients) = .ok plans)
    (origin : Bytes) (message : Message) :
    (assemble origin publicNonce secretNonce relay sender recipients message plans).Shaped
      (recipients.length + 1) where
  publicNonce := publicNonce.length_bytes
  relayKey := relay.publicKey.length_bytes
  commitment := Crypto.Blake2s.length_digest _
  count := by
    calc
      (plans.map ChannelPlan.channel).length = plans.length := List.length_map ..
      _ = (sender :: recipients).length := (planChannels_eq_ok_iff.mp hplans).length_eq.symm
      _ = recipients.length + 1 := List.length_cons
  channels := by
    intro c hc
    obtain ⟨p, hp, rfl⟩ := List.mem_map.mp hc
    obtain ⟨party, -, box, -, rfl⟩ := Attempt.exists_of_mem (planChannels_eq_ok_iff.mp hplans) hp
    exact Channel.shaped_plan box publicNonce secretNonce (sender :: recipients)

theorem shaped_of_draft {origin : Bytes} {publicNonce sender : Material}
    {recipients : List Material} {message : Message} {entropy : Entropy} {e : Envelope}
    {secretNonce : Nonce}
    (h : draft origin publicNonce sender recipients message entropy = .ok (e, secretNonce)) :
    e.Shaped (recipients.length + 1) := by
  obtain ⟨nonce, key, keys, plans, -, -, hkeys, hplans, rfl, -⟩ := draft_eq_ok_iff.mp h
  rw [(Attempt.mapM_eq_ok_iff.mp hkeys).length_eq]
  exact shaped_assemble hplans origin message

/-- The documents of two envelopes have one size in every style, in characters and in bytes. -/
def SameSize (e e' : Envelope) : Prop :=
  ∀ s : Json.Style, (Json.write s e.toJson).length = (Json.write s e'.toJson).length ∧
    (Utf8.encode (Json.write s e.toJson)).length = (Utf8.encode (Json.write s e'.toJson)).length

theorem Shaped.sameSize {parties : Nat} {e e' : Envelope} (h : e.Shaped parties)
    (h' : e'.Shaped parties) : e.SameSize e' := by
  intro s
  constructor
  · exact (h.size_toJson Text.size_length s).trans (h'.size_toJson Text.size_length s).symm
  · exact (h.size_toJson Text.size_encode s).trans (h'.size_toJson Text.size_encode s).symm

/-- In its compact form an envelope for a number of parties has this many characters. -/
theorem Shaped.length_writeCompact {parties : Nat} {e : Envelope} (h : e.Shaped (parties + 1)) :
    (Json.writeCompact e.toJson).length =
      67 * (parties + 1) ^ 2 + 113 * (parties + 1) + 187 := by
  calc
    (Json.writeCompact e.toJson).length = documentSize 1 1 (parties + 1) :=
      h.size_toJson Text.size_length .compact
    _ = 67 * (parties + 1) ^ 2 + 113 * (parties + 1) + 187 :=
      documentSize_compact (Nat.succ_ne_zero parties)

end Envelope

/-- The stored form of a message is as long as its shape says. -/
theorem Message.length_toBytes_of_shape_eq {m m' : Message} (h : m.shape = m'.shape) :
    m.toBytes.length = m'.toBytes.length :=
  size_toJson_of_shape_eq Text.size_encode .compact h

namespace Composition

variable {c c' : Composition} {own own' : SecretKey}

/-- Every payload of a composition is its message, encrypted for somebody. -/
theorem Planned.exists_payload (h : c.Planned own) {p : Bytes × Bytes}
    (hp : p ∈ c.outgoing.messages) :
    ∃ box : Box, p.2 = (box.encryptMessage c.secretNonce c.message).toBytes := by
  obtain ⟨copy, hcopy, rfl⟩ := List.mem_map.mp hp
  obtain ⟨recipient, -, box, -, rfl⟩ := Attempt.exists_of_mem h.copies hcopy
  exact ⟨box, rfl⟩

/-- Payloads of messages of one shape have one length. -/
theorem Planned.length_payload_eq (h : c.Planned own) (h' : c'.Planned own')
    (hshape : c.message.shape = c'.message.shape) :
    ∀ p ∈ c.outgoing.messages, ∀ q ∈ c'.outgoing.messages, p.2.length = q.2.length := by
  intro p hp q hq
  obtain ⟨box, hp⟩ := h.exists_payload hp
  obtain ⟨box', hq⟩ := h'.exists_payload hq
  rw [hp, hq]
  apply Message.length_toBytes_of_shape_eq
  rw [Box.shape_encryptMessage, Box.shape_encryptMessage, hshape]

end Composition

namespace Correspondence

/-- Lengths tell nothing but counts. Two envelopes that were drafted for equally many recipients
have equally many channels with equally many sealed participants, every sealed nonce has 40 bytes
and every sealed participant 48, and their documents are of one size in every style; in compact
form it is the given square in the number of parties. The payloads of one composition have one
length, and so have those of two compositions whose messages have, entry by entry, keys and values
of equal lengths and equal kinds. -/
theorem lengths_tell_only_counts :
    (∀ (origin origin' : Bytes) (publicNonce publicNonce' sender sender' : Material)
        (recipients recipients' : List Material) (message message' : Message)
        (entropy entropy' : Entropy) (e e' : Envelope) (secretNonce secretNonce' : Nonce),
      recipients.length = recipients'.length →
      Envelope.draft origin publicNonce sender recipients message entropy =
        .ok (e, secretNonce) →
      Envelope.draft origin' publicNonce' sender' recipients' message' entropy' =
        .ok (e', secretNonce') →
      e.Shaped (recipients.length + 1) ∧ e'.Shaped (recipients.length + 1) ∧ e.SameSize e' ∧
      (Json.writeCompact e.toJson).length =
        67 * (recipients.length + 1) ^ 2 + 113 * (recipients.length + 1) + 187) ∧
    ∀ (origin : Bytes) (own : Material) (recipients : List Material) (message : Message)
        (publicNonce : Option Material) (entropy : Entropy) (out : Outgoing),
      compose origin own recipients message publicNonce entropy = .ok out →
      out.envelope.Shaped (recipients.length + 1) ∧
      (∀ p ∈ out.messages, ∀ q ∈ out.messages, p.2.length = q.2.length) ∧
      ∀ (origin' : Bytes) (own' : Material) (recipients' : List Material) (message' : Message)
          (publicNonce' : Option Material) (entropy' : Entropy) (out' : Outgoing),
        compose origin' own' recipients' message' publicNonce' entropy' = .ok out' →
        message.shape = message'.shape →
        ∀ p ∈ out.messages, ∀ q ∈ out'.messages, p.2.length = q.2.length := by
  constructor
  · intro origin origin' publicNonce publicNonce' sender sender' recipients recipients' message
      message' entropy entropy' e e' secretNonce secretNonce' hcount h h'
    have hshaped : e.Shaped (recipients.length + 1) := Envelope.shaped_of_draft h
    have hshaped' : e'.Shaped (recipients.length + 1) := hcount ▸ Envelope.shaped_of_draft h'
    exact ⟨hshaped, hshaped', hshaped.sameSize hshaped', hshaped.length_writeCompact⟩
  · intro origin own recipients message publicNonce entropy out h
    obtain ⟨c, hc, rfl⟩ := compose_eq_ok_iff.mp h
    obtain ⟨key, -, hplanned, hkeys, -, hmessage⟩ := planned_of_composition hc
    refine ⟨?_, hplanned.length_payload_eq hplanned rfl, ?_⟩
    · rw [(Attempt.mapM_eq_ok_iff.mp hkeys).length_eq]
      exact Envelope.shaped_assemble hplanned.channels c.origin c.message
    · intro origin' own' recipients' message' publicNonce' entropy' out' h' hshape
      obtain ⟨c', hc', rfl⟩ := compose_eq_ok_iff.mp h'
      obtain ⟨key', -, hplanned', -, -, hmessage'⟩ := planned_of_composition hc'
      apply hplanned.length_payload_eq hplanned'
      rw [hmessage, hmessage', hshape]

/-- A reply that has the shape of the note. -/
def reply : Message := ⟨[⟨[9, 9], [0], .text⟩]⟩

/-- The envelope of an empty message the other way, with other nonces and another relay key. -/
def draftReply : Except BoxFault (Envelope × Nonce) :=
  Envelope.draft [] (.bytes (List.replicate 24 5)) (.publicKey noteRecipient.publicKey)
    [.publicKey noteSender.publicKey] ⟨[]⟩ noteEntropy

theorem exists_drafted_reply : ∃ d, draftReply = .ok d :=
  Attempt.exists_eq_ok_of_isOk (by decide +kernel)

/-- The reply as it is composed for two recipients. -/
def composeReply : Except BoxFault Outgoing :=
  compose [] (.secretKey noteRecipient)
    [.publicKey noteSender.publicKey, .publicKey noteRecipient.publicKey] reply
    (some (.bytes (List.replicate 24 5))) noteEntropy

theorem exists_composed_reply : ∃ out, composeReply = .ok out :=
  Attempt.exists_eq_ok_of_isOk (by decide +kernel)

/-- The envelopes of the note and of the empty message cannot be told apart by lengths, and the
payloads of the note and of the reply cannot either. -/
theorem lengths_of_note_and_reply :
    (∃ d d', draftNote = .ok d ∧ draftReply = .ok d' ∧ d.1.Shaped 2 ∧ d'.1.Shaped 2 ∧
      d.1.SameSize d'.1 ∧ (Json.writeCompact d.1.toJson).length = 681) ∧
    ∃ out out', composeNote = .ok out ∧ composeReply = .ok out' ∧ out'.envelope.Shaped 3 ∧
      (∀ p ∈ out'.messages, ∀ q ∈ out'.messages, p.2.length = q.2.length) ∧
      ∀ p ∈ out'.messages, ∀ q ∈ out.messages, p.2.length = q.2.length := by
  constructor
  · obtain ⟨⟨e, secretNonce⟩, h⟩ := exists_drafted_note
    obtain ⟨⟨e', secretNonce'⟩, h'⟩ := exists_drafted_reply
    obtain ⟨hshaped, hshaped', hsize, hlength⟩ := lengths_tell_only_counts.1 [4] []
      (.bytes (List.replicate 24 0)) (.bytes (List.replicate 24 5)) (.publicKey noteSender.publicKey)
      (.publicKey noteRecipient.publicKey) [.publicKey noteRecipient.publicKey]
      [.publicKey noteSender.publicKey] note ⟨[]⟩ ⟨[]⟩ noteEntropy e e' secretNonce secretNonce'
      (by rw [List.length_singleton, List.length_singleton]) h h'
    exact ⟨_, _, h, h', hshaped, hshaped', hsize, hlength⟩
  · obtain ⟨out, h⟩ := exists_composed_note
    obtain ⟨out', h'⟩ := exists_composed_reply
    obtain ⟨hshaped, hone, htwo⟩ := lengths_tell_only_counts.2 _ _ _ _ _ _ _ h'
    exact ⟨out, out', h, h', hshaped, hone, htwo _ _ _ _ _ _ _ h rfl⟩

end Correspondence
end SealedPost
