import SealedPost.Proofs.Correspondence.Ownership

/-!
# Who may read without being listed

An envelope can be made by anybody, and a channel that opens for a reader need not name the
reader among the parties. What ties a reader who is not listed to a message is the payload
alone: it opens in the box with the party that the channel names as the sender. So such a
reader receives exactly what that party has encrypted for them.
-/

namespace SealedPost

/-- An envelope with one channel, sealed in a box, whose parties may be anybody; the key of the
peer serves as relay key, and the commitment is the one to what is given. -/
def Envelope.sealedIn (box : Box) (nonce : Nonce) (origin : Bytes) (r : Received) : Envelope where
  publicNonce := nonce.bytes
  relayKey := box.peer.bytes
  commitment := Commitment.Subject.digest
    { origin := origin, publicNonce := nonce.bytes, sender := r.sender, relay := box.peer.bytes,
      secretNonce := nonce, recipients := r.recipients, message := r.message }
  channels := [Channel.sealedIn box nonce ⟨nonce, r.sender :: r.recipients⟩]

/-- Whoever has the box opens the channel. -/
theorem Envelope.openWith_sealedIn {reader : Material} {own : SecretKey} {peer : PublicKey}
    {box : Box} (hreader : reader.asSecretKey = .ok own) (hbox : Box.agree peer own = .ok box)
    (nonce : Nonce) (origin : Bytes) (r : Received) :
    (sealedIn box nonce origin r).openWith reader =
      .ok (some ⟨nonce, r.sender :: r.recipients⟩) := by
  have hpeer := congrArg PublicKey.bytes (Box.peer_of_agree hbox)
  exact openWith_of_sealedIn hreader hbox rfl hpeer rfl

namespace Correspondence

/-- A body comes from a peer exactly if the peer is a key with which there is a box, and the
body is what the box makes of the message. -/
theorem decryptBody_eq_ok_iff {encrypted m : Message} {nonce : Nonce} {own : SecretKey}
    {p : Bytes} : decryptBody encrypted nonce own p = .ok m ↔
      ∃ peer box, peer.bytes = p ∧ Box.agree peer own = .ok box ∧
        encrypted = box.encryptMessage nonce m := by
  simp only [decryptBody, Attempt.bind_eq_ok_iff, Material.asPublicKey_eq_ok_iff,
    Box.decryptMessage_eq_ok_iff]
  constructor
  · rintro ⟨peer, rfl, box, hbox, henc⟩
    exact ⟨peer, box, rfl, hbox, henc⟩
  · rintro ⟨peer, box, rfl, hbox, henc⟩
    exact ⟨peer, rfl, box, hbox, henc⟩

/-- With one peer a search is one attempt. -/
theorem searchBody_singleton_eq_ok_iff {attempt : Bytes → Except BoxFault Message}
    {last : BoxFault} {p : Bytes} {m : Message} :
    searchBody attempt last [p] = .ok m ↔ attempt p = .ok m := by
  rw [searchBody]
  cases attempt p with
  | ok m' => simp
  | error fault => cases h : fault.isDeclared <;> simp [searchBody, h]

/-- A reader who is not listed is taken for a recipient, to whom only the sender writes. -/
theorem peers_of_not_mem {own : PublicKey} {sender : Bytes} {recipients : List Bytes}
    (h : own.bytes ∉ sender :: recipients) : peers own sender recipients = [sender] := by
  rw [peers, if_neg fun hown : own.bytes = sender => h (hown ▸ List.mem_cons_self)]

/-- A reader who is not listed reads a message that the sender has encrypted for them. -/
theorem receive_sealedIn {reader : Material} {own : SecretKey} {peer : PublicKey} {box : Box}
    (hreader : reader.asSecretKey = .ok own) (hbox : Box.agree peer own = .ok box)
    {r : Received} (hsender : peer.bytes = r.sender)
    (houtside : own.publicKey.bytes ∉ r.sender :: r.recipients) {nonce : Nonce}
    {payload : Bytes} (hpayload : Message.ofBytes payload = .ok (box.encryptMessage nonce r.message))
    (origin : Bytes) :
    receive origin (Envelope.sealedIn box nonce origin r) payload reader = .ok (some r) := by
  have hbody : decryptBody (box.encryptMessage nonce r.message) nonce own r.sender =
      .ok r.message :=
    decryptBody_eq_ok_iff.mpr ⟨peer, box, hsender, hbox, rfl⟩
  have hopen := Envelope.openWith_sealedIn hreader hbox nonce origin r
  rw [Envelope.openWith_of_asSecretKey hreader] at hopen
  refine receive_eq_ok_some_iff.mpr ⟨own, _, hreader, hopen, readOpened_eq_ok_iff.mpr ?_⟩
  rw [peers_of_not_mem houtside]
  refine ⟨rfl, List.cons_ne_nil _ _, _, hpayload, ?_, ?_⟩
  · exact searchBody_singleton_eq_ok_iff.mpr hbody
  · exact Envelope.verifyCommitment_iff.mpr rfl

/-- A reader who is not listed receives a message from a payload, under some envelope, exactly if
the payload is the message as the listed sender encrypts it for the reader. Nothing else that a
channel lists is compared with the reader. -/
theorem outsider_receives_iff_addressed {reader : Material} {own : SecretKey}
    (hreader : reader.asSecretKey = .ok own) {r : Received}
    (houtside : own.publicKey.bytes ∉ r.sender :: r.recipients) (origin payload : Bytes) :
    (∃ e, receive origin e payload reader = .ok (some r)) ↔
      ∃ peer box nonce, peer.bytes = r.sender ∧ Box.agree peer own = .ok box ∧
        Message.ofBytes payload = .ok (box.encryptMessage nonce r.message) := by
  constructor
  · rintro ⟨e, h⟩
    obtain ⟨key, found, hkey, -, hread⟩ := receive_eq_ok_some_iff.mp h
    cases hreader.symm.trans hkey
    obtain ⟨-, -, encrypted, hpayload, hbody, -⟩ := readOpened_eq_ok_iff.mp hread
    rw [peers_of_not_mem houtside, searchBody_singleton_eq_ok_iff] at hbody
    obtain ⟨peer, box, hsender, hbox, rfl⟩ := decryptBody_eq_ok_iff.mp hbody
    exact ⟨peer, box, found.secretNonce, hsender, hbox, hpayload⟩
  · rintro ⟨peer, box, nonce, hsender, hbox, hpayload⟩
    exact ⟨_, receive_sealedIn hreader hbox hsender houtside hpayload origin⟩

/-- The note as it would read for the stranger: neither of its parties is the stranger. -/
def noteReading : Received :=
  ⟨noteSender.publicKey.bytes, [noteRecipient.publicKey.bytes], note⟩

theorem noteStranger_not_listed :
    noteStranger.publicKey.bytes ∉ noteReading.sender :: noteReading.recipients := by
  decide +kernel

theorem exists_box_of_noteStranger :
    ∃ box, Box.agree noteSender.publicKey noteStranger = .ok box :=
  Attempt.exists_eq_ok_of_isOk (by decide +kernel)

/-- The stranger receives the note if its sender encrypts it for them. -/
theorem noteStranger_receives_note : ∃ box nonce,
    Box.agree noteSender.publicKey noteStranger = .ok box ∧
      ∃ e, receive [4] e (box.encryptMessage nonce note).toBytes (.secretKey noteStranger) =
        .ok (some noteReading) := by
  obtain ⟨box, hbox⟩ := exists_box_of_noteStranger
  refine ⟨box, noteEntropy.nonce.1, hbox, ?_⟩
  exact (outsider_receives_iff_addressed rfl noteStranger_not_listed [4] _).mpr
    ⟨_, box, _, rfl, hbox, Message.ofBytes_toBytes _⟩

/-- So it is not only the participants who receive. -/
theorem not_only_participants_receive :
    ¬ ∀ (origin : Bytes) (e : Envelope) (payload : Bytes) (reader : Material) (own : SecretKey)
      (r : Received), reader.asSecretKey = .ok own →
      receive origin e payload reader = .ok (some r) →
      own.publicKey.bytes ∈ r.sender :: r.recipients := by
  intro h
  obtain ⟨box, hbox⟩ := exists_box_of_noteStranger
  have hreader : (Material.secretKey noteStranger).asSecretKey = .ok noteStranger := rfl
  have hpayload := Message.ofBytes_toBytes (box.encryptMessage noteEntropy.nonce.1 note)
  have hread : receive [4] (Envelope.sealedIn box noteEntropy.nonce.1 [4] noteReading)
      (box.encryptMessage noteEntropy.nonce.1 note).toBytes (.secretKey noteStranger) =
        .ok (some noteReading) :=
    receive_sealedIn hreader hbox rfl noteStranger_not_listed hpayload [4]
  exact noteStranger_not_listed (h _ _ _ _ _ _ rfl hread)

end Correspondence
end SealedPost
