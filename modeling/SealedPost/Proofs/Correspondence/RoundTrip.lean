import SealedPost.Proofs.Correspondence.Commitment
import SealedPost.Proofs.Correspondence.Composing
import SealedPost.Proofs.Correspondence.Reading
import SealedPost.Proofs.Discovery
import SealedPost.Proofs.Wire.RoundTrip

/-!
# What is composed is read

Each recipient reads their copy of a composed message, and the sender reads all copies. A
reader finds their channel, tries peers until the copy opens, and then holds what the
envelope is committed to. Of the primitives it is assumed that agreement does not depend
on the side and that the ciphertexts of the message open under no other key of the reader.
-/

namespace SealedPost

open Crypto

namespace Composition

/-- The peers with whom a reader of a copy tries to open it: the recipients for a reader who has the
sender's public key, else the sender. -/
def tried (c : Composition) (reader : SecretKey) : List PublicKey :=
  if reader.publicKey = c.sender then c.recipients else [c.sender]

/-- What a reading of a composed message assumes of the primitives. A secret key of the
composition and the reader's key agree from both sides. Keys with one public key are
refused by the same peers, which matters to a reader who has the sender's public key but
another secret key, and so tries the recipients. And no encryption of the composition opens
under another key that the reader agrees on with the relay key or a peer that is tried. -/
structure Sound (c : Composition) (own reader : SecretKey) : Prop where
  relay_symmetric : c.relay.Symmetric reader
  sender_symmetric : own.Symmetric reader
  refusals : own.publicKey = reader.publicKey → ∀ peer ∈ c.recipients,
    X25519.agree? reader.bytes peer.bytes = none → X25519.agree? own.bytes peer.bytes = none
  isolated : ∀ peer ∈ c.relay.publicKey :: c.tried reader, ∀ box,
    Box.agree peer reader = .ok box → ∀ s ∈ c.sealings, box.key ≠ s.key →
      box.decrypt? s.nonce s.ciphertext = none

instance (c : Composition) (own reader : SecretKey) : Decidable (c.Sound own reader) :=
  decidable_of_iff
    (c.relay.Symmetric reader ∧ own.Symmetric reader ∧
      (own.publicKey = reader.publicKey → ∀ peer ∈ c.recipients,
        X25519.agree? reader.bytes peer.bytes = none →
          X25519.agree? own.bytes peer.bytes = none) ∧
      ∀ peer ∈ c.relay.publicKey :: c.tried reader, ∀ box,
        Box.agree peer reader = .ok box → ∀ s ∈ c.sealings, box.key ≠ s.key →
          box.decrypt? s.nonce s.ciphertext = none)
    ⟨fun ⟨hrelay, hsender, hrefusals, hisolated⟩ => ⟨hrelay, hsender, hrefusals, hisolated⟩,
      fun ⟨hrelay, hsender, hrefusals, hisolated⟩ => ⟨hrelay, hsender, hrefusals, hisolated⟩⟩

end Composition

/-- Material that is a secret key scans an assembled envelope with that key. -/
theorem Envelope.scanner_assemble (origin : Bytes) (publicNonce secretNonce : Nonce)
    (relay : SecretKey) (sender : PublicKey) (recipients : List PublicKey) (message : Message)
    (plans : List ChannelPlan) {own : Material} {sk : SecretKey} (h : own.asSecretKey = .ok sk) :
    (assemble origin publicNonce secretNonce relay sender recipients message plans).scanner own =
      .ok (scanChannel publicNonce relay.publicKey sk) := by
  simp only [scanner, assemble, Material.nonce_bytes, Material.asPublicKey_bytes, h,
    Attempt.ok_bind]
  rfl

theorem Envelope.openWith_assemble (origin : Bytes) (publicNonce secretNonce : Nonce)
    (relay : SecretKey) (sender : PublicKey) (recipients : List PublicKey) (message : Message)
    (plans : List ChannelPlan) (own : SecretKey) :
    (assemble origin publicNonce secretNonce relay sender recipients message plans).openWith
        (.secretKey own) =
      firstOpen (scanChannel publicNonce relay.publicKey own)
        (plans.map ChannelPlan.channel) := by
  have hown : (Material.secretKey own).asSecretKey = .ok own := rfl
  rw [openWith, scanner_assemble _ _ _ _ _ _ _ _ hown, Attempt.ok_bind]
  rfl

namespace Correspondence

/-- A search gives the message that some peers open, if the others fail in a foreseen way. -/
theorem searchBody_eq_ok {attempt : Bytes → Except BoxFault Message} {peers : List Bytes}
    {m : Message}
    (h : ∀ p ∈ peers, attempt p = .ok m ∨
      ∃ fault, attempt p = .error fault ∧ fault.isDeclared = true)
    (hopen : ∃ p ∈ peers, attempt p = .ok m) (last : BoxFault) :
    searchBody attempt last peers = .ok m := by
  induction peers generalizing last with
  | nil =>
      obtain ⟨p, hp, -⟩ := hopen
      cases hp
  | cons p rest ih =>
      obtain ⟨hfirst, hrest⟩ := List.forall_mem_cons.mp h
      rcases hfirst with hok | ⟨fault, hfault, hdeclared⟩
      · simp only [searchBody, hok]
      · rcases (List.exists_mem_cons_iff _ _ _).mp hopen with hok | hlater
        · rw [hfault] at hok
          cases hok
        · simp only [searchBody, hfault, hdeclared, if_true]
          exact ih hrest hlater fault

/-- The bodies that a box opens are those of the agreement with its peer. -/
theorem decryptBody_of_agree {own : SecretKey} {peer : PublicKey} {box : Box}
    (h : Box.agree peer own = .ok box) (encrypted : Message) (nonce : Nonce) :
    decryptBody encrypted nonce own peer.bytes = box.decryptMessage nonce encrypted := by
  simp only [decryptBody, Material.asPublicKey_bytes, h, Attempt.ok_bind]

section Reader

variable {c : Composition} {own reader : SecretKey} {recipient : PublicKey} {other : Box}

/-- A reader tries exactly these peers. -/
theorem peers_eq_map_tried (c : Composition) (reader : SecretKey) :
    peers reader.publicKey c.sender.bytes (c.recipients.map PublicKey.bytes) =
      (c.tried reader).map PublicKey.bytes := by
  unfold peers Composition.tried
  by_cases hself : reader.publicKey = c.sender
  · rw [if_pos (congrArg PublicKey.bytes hself), if_pos hself]
  · rw [if_neg fun hbytes => hself (PublicKey.ext hbytes), if_neg hself]
    rfl

/-- A recipient of a copy, and the sender, have a box with every peer they try, and with one
of them the box that the copy was encrypted in. -/
theorem exists_box_of_tried (hplanned : c.Planned own) (hsound : c.Sound own reader)
    (hmem : recipient ∈ c.recipients) (hother : Box.agree recipient own = .ok other)
    (hreader : reader.publicKey = recipient ∨ reader = own) :
    (∀ peer ∈ c.tried reader, ∃ box, Box.agree peer reader = .ok box) ∧
    ∃ peer ∈ c.tried reader, ∃ box, Box.agree peer reader = .ok box ∧ box.key = other.key := by
  -- A recipient has the box with the sender whose key is that of the copy.
  have hback (h : reader.publicKey = recipient) :
      ∃ box, Box.agree c.sender reader = .ok box ∧ box.key = other.key :=
    hplanned.sender ▸ Box.agree_of_symmetric hsound.sender_symmetric (h ▸ hother)
  unfold Composition.tried
  by_cases hself : reader.publicKey = c.sender
  · rw [if_pos hself]
    have hkey : own.publicKey = reader.publicKey := hplanned.sender.symm.trans hself.symm
    constructor
    · intro peer hpeer
      obtain ⟨box, hbox⟩ := hplanned.exists_box hpeer
      obtain ⟨shared, hshared, -⟩ := Box.agree_eq_ok_iff.mp hbox
      cases hagree : X25519.agree? reader.bytes peer.bytes with
      | none =>
          rw [hsound.refusals hkey peer hpeer hagree] at hshared
          cases hshared
      | some shared' => exact ⟨_, Box.agree_eq_ok_iff.mpr ⟨shared', hagree, rfl⟩⟩
    · refine ⟨recipient, hmem, ?_⟩
      rcases hreader with hrecipient | rfl
      · rw [← hrecipient, hself]
        exact hback hrecipient
      · exact ⟨other, hother, rfl⟩
  · rw [if_neg hself]
    have hrecipient : reader.publicKey = recipient := by
      rcases hreader with hrecipient | rfl
      · exact hrecipient
      · exact absurd hplanned.sender.symm hself
    obtain ⟨box, hbox, hkey⟩ := hback hrecipient
    constructor
    · intro peer hpeer
      cases List.mem_singleton.mp hpeer
      exact ⟨box, hbox⟩
    · exact ⟨c.sender, List.mem_singleton_self _, box, hbox, hkey⟩

/-- The search of a recipient of a copy, and that of the sender, ends with the message. -/
theorem searchBody_of_copy (hplanned : c.Planned own) (hsound : c.Sound own reader)
    (hmem : recipient ∈ c.recipients) (hother : Box.agree recipient own = .ok other)
    (hcopy : ⟨recipient, other.planMessage c.secretNonce c.message⟩ ∈ c.copies)
    (hreader : reader.publicKey = recipient ∨ reader = own) (last : BoxFault) :
    searchBody (decryptBody (other.encryptMessage c.secretNonce c.message) c.secretNonce reader)
      last (peers reader.publicKey c.sender.bytes (c.recipients.map PublicKey.bytes)) =
        .ok c.message := by
  obtain ⟨hall, peer, hpeer, box, hbox, hkey⟩ :=
    exists_box_of_tried hplanned hsound hmem hother hreader
  rw [peers_eq_map_tried]
  refine searchBody_eq_ok ?_ ⟨peer.bytes, List.mem_map_of_mem hpeer, ?_⟩ last
  · intro p hp
    obtain ⟨peer, htried, rfl⟩ := List.mem_map.mp hp
    obtain ⟨box, hbox⟩ := hall peer htried
    rw [decryptBody_of_agree hbox]
    by_cases hsame : box.key = other.key
    · exact .inl (Box.decryptMessage_encryptMessage hsame ..)
    · have hclosed : ∀ p ∈ other.planMessage c.secretNonce c.message,
          box.decrypt? c.secretNonce p.key.ciphertext = none := by
        intro p hp
        have hsealing : p.key ∈ c.sealings :=
          List.mem_append_right _ (List.mem_flatMap.mpr ⟨_, hcopy,
            List.mem_flatMap.mpr ⟨p, hp, List.mem_cons_self⟩⟩)
        obtain ⟨e, -, rfl⟩ := List.mem_map.mp hp
        exact hsound.isolated peer (List.mem_cons_of_mem _ htried) box hbox _ hsealing hsame
      rcases Box.decryptMessage_of_forall_none hclosed with hok | herror
      · exact .inl hok
      · exact .inr ⟨_, herror, rfl⟩
  · rw [decryptBody_of_agree hbox]
    exact Box.decryptMessage_encryptMessage hkey ..

/-- A reader who is a party finds the secret nonce and all parties. -/
theorem openWith_of_planned (hplanned : c.Planned own) (hsound : c.Sound own reader)
    (hparty : reader.publicKey ∈ c.sender :: c.recipients) :
    c.envelope.openWith (.secretKey reader) =
      .ok (some ⟨c.secretNonce, (c.sender :: c.recipients).map PublicKey.bytes⟩) := by
  rw [Composition.envelope, Envelope.openWith_assemble]
  refine Envelope.firstOpen_planChannels hplanned.channels hparty hsound.relay_symmetric ?_
  intro box hbox p hp hne
  have hsealing : p.nonce ∈ c.sealings :=
    List.mem_append_left _ (List.mem_flatMap.mpr ⟨p, hp, List.mem_cons_self⟩)
  exact hsound.isolated _ List.mem_cons_self box hbox _ hsealing hne

/-- The recipient of a copy, and the sender, read the message from it. -/
theorem receive_of_planned (hplanned : c.Planned own) (hsound : c.Sound own reader)
    {material : Material} (hmaterial : material.asSecretKey = .ok reader) {i : Nat}
    {m : Bytes × Bytes} (hm : c.outgoing.messages[i]? = some m)
    (hreader : c.recipients[i]? = some reader.publicKey ∨ reader = own) :
    receive c.origin c.envelope m.2 material =
      .ok (some ⟨c.sender.bytes, c.recipients.map PublicKey.bytes, c.message⟩) := by
  rw [Composition.outgoing, List.getElem?_map] at hm
  obtain ⟨copy, hcopy, rfl⟩ := Option.map_eq_some_iff.mp hm
  obtain ⟨recipient, hrecipient, other, hother, rfl⟩ :=
    Attempt.exists_of_getElem? hplanned.copies hcopy
  have hmem : recipient ∈ c.recipients := List.mem_of_getElem? hrecipient
  have hfits : reader.publicKey = recipient ∨ reader = own := by
    rcases hreader with h | h
    · exact .inl (Option.some.inj (h.symm.trans hrecipient))
    · exact .inr h
  have hparty : reader.publicKey ∈ c.sender :: c.recipients := by
    rcases hfits with h | h
    · exact List.mem_cons_of_mem _ (h ▸ hmem)
    · rw [h, ← hplanned.sender]
      exact List.mem_cons_self
  have hpeers : peers reader.publicKey c.sender.bytes (c.recipients.map PublicKey.bytes) ≠ [] := by
    obtain ⟨-, peer, hpeer, -⟩ := exists_box_of_tried hplanned hsound hmem hother hfits
    rw [peers_eq_map_tried]
    exact List.ne_nil_of_mem (List.mem_map_of_mem hpeer)
  have hbody := searchBody_of_copy hplanned hsound hmem hother (List.mem_of_getElem? hcopy)
    hfits (.decryptionFailed reader.publicKey.bytes)
  refine receive_eq_ok_some_iff.mpr
    ⟨reader, _, hmaterial, openWith_of_planned hplanned hsound hparty, ?_⟩
  exact readOpened_eq_ok_iff.mpr ⟨rfl, hpeers, _, Message.ofBytes_toBytes _, hbody,
    Envelope.verifyCommitment_assemble ..⟩

end Reader

/-- Every participant reads what was composed. The recipient of the i-th copy, whoever else
is on the list, and the sender, from whichever copy, get the sender's public key, the list
of recipients as it was given and the message with all its entries, in order and kind. -/
theorem every_participant_reads {origin : Bytes} {own : Material} {recipients : List Material}
    {message : Message} {publicNonce : Option Material} {entropy : Entropy} {out : Outgoing}
    (h : compose origin own recipients message publicNonce entropy = .ok out) :
    ∃ key keys c, own.asSecretKey = .ok key ∧
      recipients.mapM Material.asPublicKey = .ok keys ∧
      composition origin own recipients message publicNonce entropy = .ok c ∧
      out.messages.map Prod.fst = keys.map PublicKey.bytes ∧
      ∀ (reader : Material) (sk : SecretKey), reader.asSecretKey = .ok sk → c.Sound key sk →
        ∀ (i : Nat) (m : Bytes × Bytes), out.messages[i]? = some m →
          keys[i]? = some sk.publicKey ∨ sk = key →
          receive origin out.envelope m.2 reader =
            .ok (some ⟨key.publicKey.bytes, keys.map PublicKey.bytes, message⟩) := by
  obtain ⟨c, hc, rfl⟩ := compose_eq_ok_iff.mp h
  obtain ⟨key, hkey, hplanned, hkeys, rfl, rfl⟩ := planned_of_composition hc
  refine ⟨key, c.recipients, c, hkey, hkeys, hc, ?_, ?_⟩
  · rw [← hplanned.map_recipient]
    simp only [Composition.outgoing, List.map_map]
    rfl
  · intro reader sk hreader hsound i m hm hfits
    rw [← hplanned.sender]
    exact receive_of_planned hplanned hsound hreader hm hfits

/-- The parties of a note of one entry. -/
def noteSender : SecretKey := ⟨List.replicate 32 7, List.length_replicate⟩

@[inherit_doc noteSender]
def noteRecipient : SecretKey := ⟨List.replicate 32 9, List.length_replicate⟩

@[inherit_doc noteSender]
def note : Message := ⟨[⟨[1, 2], [3], .text⟩]⟩

/-- The note as it is composed when no randomness is left to draw. -/
def composeNote : Except BoxFault Outgoing :=
  compose [4] (.secretKey noteSender) [.publicKey noteRecipient.publicKey] note none ⟨[]⟩

/-- For the note, what is assumed of the primitives can be computed. -/
theorem sound_of_note : ∀ c,
    composition [4] (.secretKey noteSender) [.publicKey noteRecipient.publicKey] note none ⟨[]⟩ =
      .ok c →
    c.Sound noteSender noteRecipient ∧ c.Sound noteSender noteSender := by
  decide +kernel

theorem exists_composed_note : ∃ out, composeNote = .ok out :=
  Attempt.exists_eq_ok_of_isOk (by decide +kernel)

/-- The recipient reads the note, and the sender reads it from the recipient's copy. -/
theorem both_parties_read_note : ∃ out payload, composeNote = .ok out ∧
    out.messages = [(noteRecipient.publicKey.bytes, payload)] ∧
    ∀ reader ∈ [noteRecipient, noteSender],
      receive [4] out.envelope payload (.secretKey reader) =
        .ok (some ⟨noteSender.publicKey.bytes, [noteRecipient.publicKey.bytes], note⟩) := by
  obtain ⟨out, h⟩ := exists_composed_note
  obtain ⟨key, keys, c, hkey, hkeys, hc, hmessages, hread⟩ := every_participant_reads h
  cases hkey
  cases hkeys
  obtain ⟨hrecipient, hsender⟩ := sound_of_note c hc
  obtain ⟨⟨name, payload⟩, hone, hname⟩ := List.map_eq_singleton_iff.mp hmessages
  have hfirst : out.messages[0]? = some (name, payload) := by
    rw [hone]
    rfl
  cases hname
  refine ⟨out, payload, h, hone, ?_⟩
  intro reader hreader
  rcases List.mem_pair.mp hreader with rfl | rfl
  · exact hread _ _ rfl hrecipient 0 _ hfirst (.inl rfl)
  · exact hread _ _ rfl hsender 0 _ hfirst (.inr rfl)

end Correspondence
end SealedPost
