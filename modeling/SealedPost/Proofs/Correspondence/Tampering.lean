import SealedPost.Proofs.Correspondence.RoundTrip

/-!
# Readings under one commitment agree

Whatever was done to the payload, the channels, the nonce or the relay key, a reading that
succeeds has checked what it found against the commitment of the envelope. So two readings
under one commitment have found the same, and so have a reading and the draft that made the
commitment, unless strings hashed on the way collide. Kinds alone are not bound.
-/

namespace SealedPost

open Commitment

namespace Correspondence

/-- What a successful reading found in its channel is what the envelope is committed to. -/
theorem exists_digest_of_receive {origin : Bytes} {e : Envelope} {payload : Bytes}
    {own : Material} {r : Received} (h : receive origin e payload own = .ok (some r)) :
    ∃ nonce, e.openWith own = .ok (some ⟨nonce, r.sender :: r.recipients⟩) ∧
      (e.subject nonce origin r.sender r.recipients r.message).digest = e.commitment := by
  obtain ⟨key, found, hkey, hopen, hread⟩ := receive_eq_ok_some_iff.mp h
  obtain ⟨hparties, -, -, -, -, hcheck⟩ := readOpened_eq_ok_iff.mp hread
  obtain ⟨nonce, participants⟩ := found
  cases hparties
  exact ⟨nonce, (Envelope.openWith_of_asSecretKey hkey).trans hopen,
    Envelope.verifyCommitment_iff.mp hcheck⟩

/-- Readings under one commitment agree, with one another and with the draft. Two readings
that succeed, by whomever and from whatever envelopes and payloads, have the origin, the
nonces, the relay key, the sender, the recipients and all keys and values in common if the
envelopes carry one commitment, or strings that are hashed for them collide. The same holds
of a draft and a reading. -/
theorem readings_under_one_commitment_agree :
    (∀ (origin origin' : Bytes) (e e' : Envelope) (payload payload' : Bytes)
      (own own' : Material) (r r' : Received),
      receive origin e payload own = .ok (some r) →
      receive origin' e' payload' own' = .ok (some r') → e.commitment = e'.commitment →
      ∃ nonce nonce', e.openWith own = .ok (some ⟨nonce, r.sender :: r.recipients⟩) ∧
        e'.openWith own' = .ok (some ⟨nonce', r'.sender :: r'.recipients⟩) ∧
        let read := e.subject nonce origin r.sender r.recipients r.message
        let read' := e'.subject nonce' origin' r'.sender r'.recipients r'.message
        read.Agree read' ∨ Collide read.hashed read'.hashed) ∧
    ∀ (origin origin' : Bytes) (publicNonce sender : Material) (recipients : List Material)
      (message : Message) (entropy : Entropy) (e e' : Envelope) (nonce : Nonce)
      (payload' : Bytes) (own' : Material) (r' : Received),
      Envelope.draft origin publicNonce sender recipients message entropy = .ok (e, nonce) →
      receive origin' e' payload' own' = .ok (some r') → e.commitment = e'.commitment →
      ∃ key keys nonce', sender.asPublicKey = .ok key ∧
        recipients.mapM Material.asPublicKey = .ok keys ∧
        e'.openWith own' = .ok (some ⟨nonce', r'.sender :: r'.recipients⟩) ∧
        let drafted := e.subject nonce origin key.bytes (keys.map PublicKey.bytes) message
        let read' := e'.subject nonce' origin' r'.sender r'.recipients r'.message
        drafted.Agree read' ∨ Collide drafted.hashed read'.hashed := by
  constructor
  · intro origin origin' e e' payload payload' own own' r r' h h' hcommitment
    obtain ⟨nonce, hopen, hdigest⟩ := exists_digest_of_receive h
    obtain ⟨nonce', hopen', hdigest'⟩ := exists_digest_of_receive h'
    refine ⟨nonce, nonce', hopen, hopen', ?_⟩
    exact agree_or_collide_of_digest_eq (hdigest.trans (hcommitment.trans hdigest'.symm))
  · intro origin origin' publicNonce sender recipients message entropy e e' nonce payload' own'
      r' h h' hcommitment
    obtain ⟨key, keys, hkey, hkeys, hcheck⟩ := Envelope.verifyCommitment_of_draft h
    obtain ⟨nonce', hopen', hdigest'⟩ := exists_digest_of_receive h'
    refine ⟨key, keys, nonce', hkey, hkeys, hopen', ?_⟩
    have hdigest := Envelope.verifyCommitment_iff.mp hcheck
    exact agree_or_collide_of_digest_eq (hdigest.trans (hcommitment.trans hdigest'.symm))

/-- The draft with the draws of the composed note. -/
def draftNote : Except BoxFault (Envelope × Nonce) :=
  Envelope.draft [4] (.bytes (List.replicate 24 0)) (.publicKey noteSender.publicKey)
    [.publicKey noteRecipient.publicKey] note ⟨[]⟩

theorem exists_drafted_note : ∃ d, draftNote = .ok d :=
  Attempt.exists_eq_ok_of_isOk (by decide +kernel)

theorem commitment_of_note : ∀ out, composeNote = .ok out → ∀ d, draftNote = .ok d →
    d.1.commitment = out.envelope.commitment := by
  decide +kernel

/-- Both parties read the composed note from its one copy. -/
theorem exists_readings_of_note {out : Outgoing} (h : composeNote = .ok out) :
    ∃ payload r, receive [4] out.envelope payload (.secretKey noteRecipient) = .ok (some r) ∧
      receive [4] out.envelope payload (.secretKey noteSender) = .ok (some r) := by
  obtain ⟨c, hc, rfl⟩ := compose_eq_ok_iff.mp h
  obtain ⟨hrecipient, hsender⟩ := sound_of_note c hc
  obtain ⟨key, hkey, hplanned, hkeys, horigin, -⟩ := planned_of_composition hc
  cases hkey
  have hfirst : c.recipients[0]? = some noteRecipient.publicKey := by
    rw [← Except.ok.inj hkeys]
    rfl
  obtain ⟨copy, hcopy, -⟩ := Attempt.exists_of_getElem? hplanned.copies.flip hfirst
  have hmessage : c.outgoing.messages[0]? =
      some (copy.recipient.bytes, Composition.payload copy) := by
    rw [Composition.outgoing, List.getElem?_map, hcopy]
    rfl
  rw [← horigin]
  exact ⟨_, _, receive_of_planned hplanned hrecipient rfl hmessage (.inl hfirst),
    receive_of_planned hplanned hsender rfl hmessage (.inr rfl)⟩

/-- The readings of the note by its two parties agree, and with the draft of the note. -/
theorem readings_of_note_agree : ∃ out e drawn payload r,
    composeNote = .ok out ∧ draftNote = .ok (e, drawn) ∧
    receive [4] out.envelope payload (.secretKey noteRecipient) = .ok (some r) ∧
    receive [4] out.envelope payload (.secretKey noteSender) = .ok (some r) ∧
    (∃ nonce nonce',
      let read := out.envelope.subject nonce [4] r.sender r.recipients r.message
      let read' := out.envelope.subject nonce' [4] r.sender r.recipients r.message
      read.Agree read' ∨ Collide read.hashed read'.hashed) ∧
    ∃ nonce',
      let drafted := e.subject drawn [4] noteSender.publicKey.bytes
        [noteRecipient.publicKey.bytes] note
      let read' := out.envelope.subject nonce' [4] r.sender r.recipients r.message
      drafted.Agree read' ∨ Collide drafted.hashed read'.hashed := by
  obtain ⟨out, hout⟩ := exists_composed_note
  obtain ⟨⟨e, drawn⟩, hdraft⟩ := exists_drafted_note
  obtain ⟨payload, r, hrecipient, hsender⟩ := exists_readings_of_note hout
  refine ⟨out, e, drawn, payload, r, hout, hdraft, hrecipient, hsender, ?_, ?_⟩
  · obtain ⟨nonce, nonce', -, -, h⟩ := readings_under_one_commitment_agree.1
      _ _ _ _ _ _ _ _ _ _ hrecipient hsender rfl
    exact ⟨nonce, nonce', h⟩
  · obtain ⟨key, keys, nonce', hkey, hkeys, -, h⟩ := readings_under_one_commitment_agree.2
      _ _ _ _ _ _ _ _ _ _ _ _ _ hdraft hrecipient (commitment_of_note out hout _ hdraft)
    cases hkey
    cases hkeys
    exact ⟨nonce', h⟩

end Correspondence
end SealedPost
