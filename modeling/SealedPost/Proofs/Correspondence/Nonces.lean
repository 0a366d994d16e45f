import SealedPost.Proofs.Correspondence.RoundTrip

/-!
# The nonces of a composition

All that a composition seals under the public nonce is the secret nonce. Under the secret
nonce a box seals a whole list: a channel the participants, a copy the entries. So the key of
a box and the secret nonce serve for several plaintexts, and they are all that does.
-/

namespace SealedPost

namespace Composition

/-- No key is used with one nonce for two plaintexts. -/
def NonceDiscipline (c : Composition) : Prop :=
  ∀ s ∈ c.sealings, ∀ t ∈ c.sealings, s.key = t.key → s.nonce = t.nonce →
    s.plaintext = t.plaintext

/-- The public keys of the participants and the keys and values of the entries. -/
def contents (c : Composition) : List Bytes :=
  (c.sender :: c.recipients).map PublicKey.bytes ++
    c.message.entries.flatMap fun e => [e.key, e.value]

variable {c : Composition} {own : SecretKey} {s t : Sealing}

/-- A sealing of a channel or a copy is a sealing of the composition. -/
theorem mem_sealings_iff :
    s ∈ c.sealings ↔
      (∃ p ∈ c.channels, s = p.nonce ∨ s ∈ p.participants) ∨
      ∃ copy ∈ c.copies, ∃ p ∈ copy.entries, s = p.key ∨ s = p.value := by
  simp only [sealings, List.mem_append, List.mem_flatMap, ChannelPlan.sealings,
    EntryPlan.sealings, List.mem_cons, List.not_mem_nil, or_false]

/-- The public nonce seals the secret nonce, and the secret nonce seals the contents. -/
theorem Planned.sealing_cases (h : c.Planned own) (hs : s ∈ c.sealings) :
    (s.nonce = c.publicNonce ∧ s.plaintext = c.secretNonce.bytes) ∨
      (s.nonce = c.secretNonce ∧ s.plaintext ∈ c.contents) := by
  rcases mem_sealings_iff.mp hs with ⟨p, hp, hs⟩ | ⟨copy, hcopy, p, hp, hs⟩
  · obtain ⟨party, -, box, -, rfl⟩ :=
      Attempt.exists_of_mem (Envelope.planChannels_eq_ok_iff.mp h.channels) hp
    rcases hs with rfl | hs
    · exact .inl ⟨rfl, rfl⟩
    · obtain ⟨participant, hparticipant, rfl⟩ := List.mem_map.mp hs
      exact .inr ⟨rfl, List.mem_append_left _ (List.mem_map_of_mem hparticipant)⟩
  · obtain ⟨recipient, -, box, -, rfl⟩ := Attempt.exists_of_mem h.copies hcopy
    obtain ⟨e, he, rfl⟩ := List.mem_map.mp hp
    right
    rcases hs with rfl | rfl
    · refine ⟨rfl, List.mem_append_right _ (List.mem_flatMap.mpr ⟨e, he, ?_⟩)⟩
      exact List.mem_cons_self
    · refine ⟨rfl, List.mem_append_right _ (List.mem_flatMap.mpr ⟨e, he, ?_⟩)⟩
      exact List.mem_cons_of_mem _ List.mem_cons_self

/-- The channel of a party seals all participants in the box of the party. -/
theorem Planned.participant_sealing_mem (h : c.Planned own) {party participant : PublicKey}
    (hparty : party ∈ c.sender :: c.recipients)
    (hparticipant : participant ∈ c.sender :: c.recipients) :
    ∃ box, Box.agree party c.relay = .ok box ∧
      box.sealing c.secretNonce participant.bytes ∈ c.sealings := by
  obtain ⟨p, hp, box, hbox, hplan⟩ := Attempt.exists_of_mem
    (Envelope.planChannels_eq_ok_iff.mp h.channels).flip hparty
  refine ⟨box, hbox, mem_sealings_iff.mpr (.inl ⟨p, hp, .inr ?_⟩)⟩
  rw [hplan]
  exact List.mem_map_of_mem (f := fun q => box.sealing c.secretNonce q.bytes) hparticipant

/-- A message to anybody but the sender breaks the discipline: each channel seals the sender
and the recipient under one key and nonce. -/
theorem Planned.not_nonceDiscipline (h : c.Planned own) {recipient : PublicKey}
    (hmem : recipient ∈ c.recipients) (hne : recipient ≠ c.sender) : ¬ c.NonceDiscipline := by
  intro hdiscipline
  have hparty : recipient ∈ c.sender :: c.recipients := List.mem_cons_of_mem _ hmem
  obtain ⟨box, hbox, hrecipient⟩ := h.participant_sealing_mem hparty hparty
  obtain ⟨box', hbox', hsender⟩ := h.participant_sealing_mem hparty List.mem_cons_self
  cases hbox.symm.trans hbox'
  have hsame : recipient.bytes = c.sender.bytes :=
    hdiscipline _ hrecipient _ hsender rfl rfl
  exact hne (PublicKey.ext hsame)

end Composition

namespace Correspondence

/-- What a composition seals under one key and one nonce is one plaintext, unless the nonce is
the secret nonce. Every sealing seals the secret nonce under the public nonce, or a participant
or a part of an entry under the secret nonce. -/
theorem shared_nonce_is_secret {origin : Bytes} {own : Material} {recipients : List Material}
    {message : Message} {publicNonce : Option Material} {entropy : Entropy} {out : Outgoing}
    (h : compose origin own recipients message publicNonce entropy = .ok out) :
    ∃ c, composition origin own recipients message publicNonce entropy = .ok c ∧
      c.outgoing = out ∧
      (∀ s ∈ c.sealings, ∀ t ∈ c.sealings, s.key = t.key → s.nonce = t.nonce →
        s.plaintext = t.plaintext ∨ s.nonce = c.secretNonce) ∧
      ∀ s ∈ c.sealings,
        (s.nonce = c.publicNonce ∧ s.plaintext = c.secretNonce.bytes) ∨
        (s.nonce = c.secretNonce ∧ s.plaintext ∈ c.contents) := by
  obtain ⟨c, hc, hout⟩ := compose_eq_ok_iff.mp h
  obtain ⟨key, -, hplanned, -, -, -⟩ := planned_of_composition hc
  refine ⟨c, hc, hout, ?_, fun s hs => hplanned.sealing_cases hs⟩
  intro s hs t ht _ hnonce
  rcases hplanned.sealing_cases hs with ⟨-, hplain⟩ | ⟨hsecret, -⟩
  · rcases hplanned.sealing_cases ht with ⟨-, hplain'⟩ | ⟨hsecret, -⟩
    · exact .inl (hplain.trans hplain'.symm)
    · exact .inr (hnonce.trans hsecret)
  · exact .inr hsecret

/-- Randomness for two nonces and a relay key. -/
def noteEntropy : Entropy :=
  ⟨List.replicate 24 1 ++ List.replicate 24 2 ++ List.replicate 32 3⟩

/-- The note as it is planned with this randomness. -/
def planNote : Except BoxFault Composition :=
  composition [4] (.secretKey noteSender) [.publicKey noteRecipient.publicKey] note none
    noteEntropy

theorem exists_planned_note : ∃ c, planNote = .ok c :=
  Attempt.exists_eq_ok_of_isOk (by decide +kernel)

/-- The channels of the note seal both participants under one key and nonce. -/
theorem not_nonceDiscipline_note : ∃ c, planNote = .ok c ∧ ¬ c.NonceDiscipline := by
  obtain ⟨c, hc⟩ := exists_planned_note
  obtain ⟨key, hkey, hplanned, hkeys, -, -⟩ := planned_of_composition hc
  cases hkey
  have hrecipients : c.recipients = [noteRecipient.publicKey] := (Except.ok.inj hkeys).symm
  have hne : noteRecipient.publicKey ≠ c.sender := by
    rw [hplanned.sender]
    decide +kernel
  refine ⟨c, hc, hplanned.not_nonceDiscipline ?_ hne⟩
  rw [hrecipients]
  exact List.mem_cons_self

/-- For the note, public and secret nonce differ, so what is sealed under the secret nonce are
the participants and the entry. -/
theorem shared_nonce_of_note_is_secret : ∃ c, planNote = .ok c ∧
    c.publicNonce ≠ c.secretNonce ∧
    ∀ s ∈ c.sealings, ∀ t ∈ c.sealings, s.key = t.key → s.nonce = t.nonce →
      s.plaintext = t.plaintext ∨ (s.plaintext ∈ c.contents ∧ t.plaintext ∈ c.contents) := by
  obtain ⟨c, hplan⟩ := exists_planned_note
  obtain ⟨c', hc', -, hshared, hcases⟩ :=
    shared_nonce_is_secret (compose_eq_ok_iff.mpr ⟨c, hplan, rfl⟩)
  cases hplan.symm.trans hc'
  have hdiffer : ∀ c, planNote = .ok c → c.publicNonce ≠ c.secretNonce := by decide +kernel
  have hne := hdiffer c hplan
  have hcontents : ∀ s ∈ c.sealings, s.nonce = c.secretNonce → s.plaintext ∈ c.contents := by
    intro s hs hsecret
    rcases hcases s hs with ⟨hpublic, -⟩ | ⟨-, hmem⟩
    · exact absurd (hpublic.symm.trans hsecret) hne
    · exact hmem
  refine ⟨c, hplan, hne, fun s hs t ht hkey hnonce => ?_⟩
  rcases hshared s hs t ht hkey hnonce with hsame | hsecret
  · exact .inl hsame
  · exact .inr ⟨hcontents s hs hsecret, hcontents t ht (hnonce.symm.trans hsecret)⟩

end Correspondence
end SealedPost
