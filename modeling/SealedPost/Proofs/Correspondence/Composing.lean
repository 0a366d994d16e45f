import SealedPost.Correspondence.Compose
import SealedPost.Proofs.Attempt

/-!
# What a successful composition is

A composition takes its keys from material and plans with them: a channel for each party
in the box with the relay key, and a copy for each recipient in the box with the sender.
-/

namespace SealedPost

namespace Composition

/-- A composition as a sender plans it: channels for all parties, the sender first, and for
each recipient a copy in the box with the sender. -/
structure Planned (c : Composition) (own : SecretKey) : Prop where
  sender : c.sender = own.publicKey
  channels : Envelope.planChannels c.publicNonce c.secretNonce c.relay
    (c.sender :: c.recipients) = .ok c.channels
  copies : List.Forall₂ (fun recipient copy => ∃ box, Box.agree recipient own = .ok box ∧
    copy = ⟨recipient, box.planMessage c.secretNonce c.message⟩) c.recipients c.copies

theorem planned_of_plan {origin : Bytes} {own : SecretKey} {recipients : List PublicKey}
    {message : Message} {publicNonce secretNonce : Nonce} {relay : SecretKey}
    {c : Composition}
    (h : plan origin own recipients message publicNonce secretNonce relay = .ok c) :
    c.Planned own ∧ c.origin = origin ∧ c.recipients = recipients ∧ c.message = message := by
  simp only [plan, Attempt.bind_eq_ok_iff, Attempt.pure_eq_ok_iff] at h
  obtain ⟨channels, hchannels, copies, hcopies, rfl⟩ := h
  refine ⟨⟨rfl, hchannels, ?_⟩, rfl, rfl, rfl⟩
  simp only [Attempt.mapM_eq_ok_iff, Attempt.bind_eq_ok_iff, Attempt.pure_eq_ok_iff,
    @eq_comm CopyPlan] at hcopies
  exact hcopies

/-- The sender has a box with every recipient. -/
theorem Planned.exists_box {c : Composition} {own : SecretKey} (h : c.Planned own)
    {peer : PublicKey} (hpeer : peer ∈ c.recipients) : ∃ box, Box.agree peer own = .ok box := by
  obtain ⟨-, -, box, hbox, -⟩ := Attempt.exists_of_mem h.copies.flip hpeer
  exact ⟨box, hbox⟩

/-- The copies stand in the order of the recipients. -/
theorem Planned.map_recipient {c : Composition} {own : SecretKey} (h : c.Planned own) :
    c.copies.map CopyPlan.recipient = c.recipients := by
  have heq : List.Forall₂ (fun recipient copy => recipient = CopyPlan.recipient copy)
      c.recipients c.copies := by
    refine h.copies.imp ?_
    rintro recipient copy ⟨box, -, rfl⟩
    rfl
  rw [← List.forall₂_map_right_iff, List.forall₂_eq_eq_eq] at heq
  exact heq.symm

/-- The pairs of a composition name the recipients in order. -/
theorem Planned.map_fst_messages {c : Composition} {own : SecretKey} (h : c.Planned own) :
    c.outgoing.messages.map Prod.fst = c.recipients.map PublicKey.bytes := by
  rw [← h.map_recipient]
  simp only [outgoing, List.map_map]
  rfl

/-- A pair of a composition stands where its recipient stands. -/
theorem Planned.exists_position_of_mem {c : Composition} {own : SecretKey} (h : c.Planned own)
    {m : Bytes × Bytes} (hm : m ∈ c.outgoing.messages) :
    ∃ i : Nat, ∃ recipient : PublicKey, c.outgoing.messages[i]? = some m ∧
      c.recipients[i]? = some recipient ∧ recipient.bytes = m.1 := by
  obtain ⟨i, hi⟩ := List.mem_iff_getElem?.mp hm
  have hname : (c.recipients.map PublicKey.bytes)[i]? = some m.1 := by
    rw [← h.map_fst_messages, List.getElem?_map, hi]
    rfl
  rw [List.getElem?_map] at hname
  obtain ⟨recipient, hrecipient, hbytes⟩ := Option.map_eq_some_iff.mp hname
  exact ⟨i, recipient, hi, hrecipient, hbytes⟩

end Composition

namespace Correspondence

theorem compose_eq_ok_iff {origin : Bytes} {own : Material} {recipients : List Material}
    {message : Message} {publicNonce : Option Material} {entropy : Entropy} {out : Outgoing} :
    compose origin own recipients message publicNonce entropy = .ok out ↔
      ∃ c, composition origin own recipients message publicNonce entropy = .ok c ∧
        c.outgoing = out := by
  simp only [compose, Attempt.bind_eq_ok_iff, Attempt.pure_eq_ok_iff]

/-- Material counts for a composition only as the keys that it is. -/
theorem composition_congr {own own' : Material} {recipients recipients' : List Material}
    (hown : own.asSecretKey = own'.asSecretKey)
    (hrecipients : recipients.mapM Material.asPublicKey = recipients'.mapM Material.asPublicKey)
    (origin : Bytes) (message : Message) (publicNonce : Option Material) (entropy : Entropy) :
    composition origin own recipients message publicNonce entropy =
      composition origin own' recipients' message publicNonce entropy := by
  simp only [composition, hown, hrecipients]

/-- Whatever nonces are given or drawn, a composition is planned with the keys of the sender
and of the recipients, for the origin and the message that are given. -/
theorem planned_of_composition {origin : Bytes} {own : Material} {recipients : List Material}
    {message : Message} {publicNonce : Option Material} {entropy : Entropy} {c : Composition}
    (h : composition origin own recipients message publicNonce entropy = .ok c) :
    ∃ key, own.asSecretKey = .ok key ∧ c.Planned key ∧
      recipients.mapM Material.asPublicKey = .ok c.recipients ∧ c.origin = origin ∧
      c.message = message := by
  cases publicNonce with
  | none =>
      simp only [composition, Attempt.bind_eq_ok_iff] at h
      obtain ⟨key, hkey, keys, hkeys, nonce, -, hplan⟩ := h
      obtain ⟨hplanned, horigin, rfl, hmessage⟩ := Composition.planned_of_plan hplan
      exact ⟨key, hkey, hplanned, hkeys, horigin, hmessage⟩
  | some given =>
      simp only [composition, Attempt.bind_eq_ok_iff] at h
      obtain ⟨key, hkey, keys, hkeys, nonce, -, hplan⟩ := h
      obtain ⟨hplanned, horigin, rfl, hmessage⟩ := Composition.planned_of_plan hplan
      exact ⟨key, hkey, hplanned, hkeys, horigin, hmessage⟩

end Correspondence
end SealedPost
