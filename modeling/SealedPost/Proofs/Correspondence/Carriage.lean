import SealedPost.Proofs.Correspondence.RoundTrip
import SealedPost.Proofs.Ledger.Persistence
import SealedPost.Proofs.Wire.Envelope

/-!
# What is composed is carried

The envelope of a composed message has the shape that a ledger asks for and comes out of its
document as it was, so a ledger with a number left accepts every copy. Whatever is sent later,
the copy is found under the announced key, and the key names the account that the message was
composed for; so every participant reads the message from the ledger.
-/

namespace SealedPost

open Crypto

theorem Sealing.ciphertext_ne_nil (s : Sealing) : s.ciphertext ≠ [] := by
  refine List.ne_nil_of_length_pos ?_
  rw [ciphertext, SecretBox.length_encrypt]
  exact Nat.succ_pos _

/-- The stored form of a message starts with a brace. -/
theorem Message.toBytes_ne_nil (m : Message) : m.toBytes ≠ [] := by
  obtain ⟨rest, hrest⟩ :=
    Json.exists_encode_object .compact ("entries", .arr (m.entries.map Entry.toJson)) [] []
  rw [List.append_nil] at hrest
  have hbytes : m.toBytes = 0x7B :: 0x22 :: rest := hrest
  rw [hbytes]
  exact List.cons_ne_nil _ _

namespace Composition

variable {c : Composition} {own : SecretKey}

/-- The envelope of a composition has one channel for each party, the sender included, and each
channel names all parties. -/
theorem Planned.wellShaped (h : c.Planned own) : c.envelope.WellShaped := by
  have hplans := Envelope.planChannels_eq_ok_iff.mp h.channels
  have hlength : c.channels.length = (c.sender :: c.recipients).length := hplans.length_eq.symm
  have hchannels : c.envelope.channels = c.channels.map ChannelPlan.channel := rfl
  have hplanned : ∀ channel ∈ c.envelope.channels, ∃ box, channel =
      (Channel.plan box c.publicNonce c.secretNonce (c.sender :: c.recipients)).channel := by
    intro channel hchannel
    rw [hchannels] at hchannel
    obtain ⟨plan, hplan, rfl⟩ := List.mem_map.mp hchannel
    obtain ⟨party, -, box, -, rfl⟩ := Attempt.exists_of_mem hplans hplan
    exact ⟨box, rfl⟩
  constructor
  · refine List.ne_nil_of_length_pos ?_
    rw [hchannels, List.length_map, hlength, List.length_cons]
    exact Nat.succ_pos _
  · intro channel hchannel
    obtain ⟨box, rfl⟩ := hplanned channel hchannel
    exact Sealing.ciphertext_ne_nil _
  · intro channel hchannel
    obtain ⟨box, rfl⟩ := hplanned channel hchannel
    rw [hchannels, List.length_map, hlength]
    simp [ChannelPlan.channel, Channel.plan]
  · intro channel hchannel p hp
    obtain ⟨box, rfl⟩ := hplanned channel hchannel
    obtain ⟨s, -, rfl⟩ := List.mem_map.mp hp
    exact s.ciphertext_ne_nil

/-- Every copy of a composition is a message in its stored form. -/
theorem payload_ne_nil {i : Nat} {m : Bytes × Bytes} (hm : c.outgoing.messages[i]? = some m) :
    m.2 ≠ [] := by
  rw [outgoing, List.getElem?_map] at hm
  obtain ⟨copy, -, rfl⟩ := Option.map_eq_some_iff.mp hm
  exact Message.toBytes_ne_nil _

end Composition

namespace Correspondence

/-- Every copy of a composed message is accepted by every ledger with a number left, under the
envelope as it comes out of its document. Whatever is sent later, the announcement keeps its
place and the copy its key, and the recipient of the copy and the sender read the message from
them, taking the account that the key names for the origin. -/
theorem composed_message_is_carried {origin : Bytes} {own : Material} {recipients : List Material}
    {message : Message} {publicNonce : Option Material} {entropy : Entropy} {out : Outgoing}
    (h : compose origin own recipients message publicNonce entropy = .ok out) :
    ∃ key keys c, own.asSecretKey = .ok key ∧
      recipients.mapM Material.asPublicKey = .ok keys ∧
      composition origin own recipients message publicNonce entropy = .ok c ∧
      out.messages.map Prod.fst = keys.map PublicKey.bytes ∧
      ∀ l : Ledger, 0 ≤ l.counter → l.counter < Ledger.counterLimit →
        ∀ (i : Nat) (m : Bytes × Bytes), out.messages[i]? = some m →
          ∃ posted a l', out.envelope.Arrives posted ∧ l.send origin posted m.2 = .ok (a, l') ∧
            ∀ later : List Submission,
              (l'.run later).events[l.events.length]? = some a ∧
              ∃ announced fetched, a.envelope.Arrives announced ∧
                (l'.run later).get? a.key = some fetched ∧
                ∀ (reader : Material) (sk : SecretKey), reader.asSecretKey = .ok sk →
                  c.Sound key sk → keys[i]? = some sk.publicKey ∨ sk = key →
                  receive (a.key.take (a.key.length - 16)) announced fetched reader =
                    .ok (some ⟨key.publicKey.bytes, keys.map PublicKey.bytes, message⟩) := by
  obtain ⟨c, hc, rfl⟩ := compose_eq_ok_iff.mp h
  obtain ⟨key, hkey, hplanned, hkeys, rfl, rfl⟩ := planned_of_composition hc
  refine ⟨key, c.recipients, c, hkey, hkeys, hc, ?_, ?_⟩
  · rw [← hplanned.map_recipient]
    simp only [Composition.outgoing, List.map_map]
    rfl
  · intro l hcounter hleft i m hm
    have hsent : l.send c.origin c.envelope m.2 = .ok (l.store _ c.envelope m.2) :=
      Ledger.send_eq_ok_iff.mpr
        ⟨⟨Composition.payload_ne_nil hm, hplanned.wellShaped⟩, ⟨hcounter, hleft⟩, rfl⟩
    refine ⟨c.envelope, _, _, c.envelope.arrives, hsent, ?_⟩
    intro later
    obtain ⟨hevent, hfound⟩ := (Ledger.extends_run _ later).lasting
      (s := ⟨c.origin, c.envelope, m.2⟩) hsent
    refine ⟨hevent, c.envelope, m.2, c.envelope.arrives, hfound, ?_⟩
    intro reader sk hreader hsound hfits
    -- The account is read off the key, so the origin is the one that was committed to.
    have horigin : Ledger.accountOf (Ledger.keyAt c.origin l.counter.toNat) = c.origin :=
      Ledger.accountOf_keyAt ..
    have hread := receive_of_planned hplanned hsound hreader hm hfits
    rw [← horigin, hplanned.sender] at hread
    exact hread

/-- The copy of the note is carried by a ledger whose first number is seven, whatever is sent
after it, and both parties read the note from the ledger. -/
theorem note_is_carried : ∃ out payload, composeNote = .ok out ∧
    out.messages = [(noteRecipient.publicKey.bytes, payload)] ∧
    ∃ posted a l', out.envelope.Arrives posted ∧
      (Ledger.empty 7).send [4] posted payload = .ok (a, l') ∧
      ∀ later : List Submission, ∃ announced fetched, a.envelope.Arrives announced ∧
        (l'.run later).get? a.key = some fetched ∧
        ∀ reader ∈ [noteRecipient, noteSender],
          receive (a.key.take (a.key.length - 16)) announced fetched (.secretKey reader) =
            .ok (some ⟨noteSender.publicKey.bytes, [noteRecipient.publicKey.bytes], note⟩) := by
  obtain ⟨out, h⟩ := exists_composed_note
  obtain ⟨key, keys, c, hkey, hkeys, hc, hmessages, hcarried⟩ := composed_message_is_carried h
  cases hkey
  cases hkeys
  obtain ⟨hrecipient, hsender⟩ := sound_of_note c hc
  obtain ⟨⟨name, payload⟩, hone, hname⟩ := List.map_eq_singleton_iff.mp hmessages
  have hfirst : out.messages[0]? = some (name, payload) := by
    rw [hone]
    rfl
  cases hname
  obtain ⟨posted, a, l', hposted, hsent, hlater⟩ :=
    hcarried (Ledger.empty 7) (by decide) (by decide) 0 _ hfirst
  refine ⟨out, payload, h, hone, posted, a, l', hposted, hsent, ?_⟩
  intro later
  obtain ⟨-, announced, fetched, hannounced, hfetched, hread⟩ := hlater later
  refine ⟨announced, fetched, hannounced, hfetched, ?_⟩
  intro reader hreader
  rcases List.mem_pair.mp hreader with rfl | rfl
  · exact hread _ _ rfl hrecipient (.inl rfl)
  · exact hread _ _ rfl hsender (.inr rfl)

end Correspondence
end SealedPost
