import SealedPost.Correspondence.Compose
import SealedPost.Proofs.Attempt
import SealedPost.Proofs.Commitment.Binding

/-!
# The commitment of an envelope

An envelope carries the commitment to what it was drafted with, and to nothing else that
differs in more than kinds, unless strings that are hashed collide.
-/

namespace SealedPost

open Commitment

namespace Envelope

/-- What the commitment of an envelope is checked against. -/
def subject (e : Envelope) (secretNonce : Nonce) (origin sender : Bytes)
    (recipients : List Bytes) (message : Message) : Subject where
  origin := origin
  publicNonce := e.publicNonce
  sender := sender
  relay := e.relayKey
  secretNonce := secretNonce
  recipients := recipients
  message := message

theorem verifyCommitment_iff {e : Envelope} {secretNonce : Nonce} {origin sender : Bytes}
    {recipients : List Bytes} {message : Message} :
    e.verifyCommitment secretNonce origin sender recipients message = true ↔
      (e.subject secretNonce origin sender recipients message).digest = e.commitment :=
  beq_iff_eq

theorem verifyCommitment_assemble (origin : Bytes) (publicNonce secretNonce : Nonce)
    (relay : SecretKey) (sender : PublicKey) (recipients : List PublicKey) (message : Message)
    (plans : List ChannelPlan) :
    (assemble origin publicNonce secretNonce relay sender recipients message
      plans).verifyCommitment secretNonce origin sender.bytes
        (recipients.map PublicKey.bytes) message = true :=
  verifyCommitment_iff.mpr rfl

/-- A draft takes the public nonce, the sender and the recipients from its material, draws
the secret nonce and then the relay key, and assembles the envelope around the channels. -/
theorem draft_eq_ok_iff {origin : Bytes} {publicNonce sender : Material}
    {recipients : List Material} {message : Message} {entropy : Entropy} {e : Envelope}
    {secretNonce : Nonce} :
    draft origin publicNonce sender recipients message entropy = .ok (e, secretNonce) ↔
      ∃ nonce key keys plans, publicNonce.nonce = .ok nonce ∧ sender.asPublicKey = .ok key ∧
        recipients.mapM Material.asPublicKey = .ok keys ∧
        planChannels nonce entropy.nonce.1 entropy.nonce.2.secretKey.1 (key :: keys) = .ok plans ∧
        e = assemble origin nonce entropy.nonce.1 entropy.nonce.2.secretKey.1 key keys message
          plans ∧
        secretNonce = entropy.nonce.1 := by
  simp only [draft, build, Attempt.bind_eq_ok_iff, Attempt.pure_eq_ok_iff, Prod.mk.injEq]
  constructor
  · rintro ⟨nonce, hn, key, hk, keys, hks, e', ⟨plans, hp, rfl⟩, rfl, rfl⟩
    exact ⟨nonce, key, keys, plans, hn, hk, hks, hp, rfl, rfl⟩
  · rintro ⟨nonce, key, keys, plans, hn, hk, hks, hp, rfl, rfl⟩
    exact ⟨nonce, hn, key, hk, keys, hks, _, ⟨plans, hp, rfl⟩, rfl, rfl⟩

/-- What is drafted into an envelope passes the check of its commitment. Whatever else
passes it is committed to as well: it agrees with what was drafted, or strings collide. -/
theorem verifyCommitment_of_draft {origin : Bytes} {publicNonce sender : Material}
    {recipients : List Material} {message : Message} {entropy : Entropy} {e : Envelope}
    {secretNonce : Nonce}
    (h : draft origin publicNonce sender recipients message entropy = .ok (e, secretNonce)) :
    ∃ key keys, sender.asPublicKey = .ok key ∧ recipients.mapM Material.asPublicKey = .ok keys ∧
      e.verifyCommitment secretNonce origin key.bytes (keys.map PublicKey.bytes) message = true := by
  obtain ⟨nonce, key, keys, plans, -, hkey, hkeys, -, rfl, rfl⟩ := draft_eq_ok_iff.mp h
  exact ⟨key, keys, hkey, hkeys, verifyCommitment_assemble ..⟩

/-- The commitment of an envelope binds every field, and kinds alone are free. Subjects that
agree have one commitment, and one commitment belongs to subjects that agree, unless strings
hashed for them collide. So a drafted envelope passes the check with what was drafted and
with what agrees with it, and with nothing else short of a collision. -/
theorem commitment_binds_all_but_kinds :
    (∀ s t : Subject, (s.Agree t → s.digest = t.digest) ∧
      (s.digest = t.digest → s.Agree t ∨ Collide s.hashed t.hashed)) ∧
    ∀ (origin : Bytes) (publicNonce sender : Material) (recipients : List Material)
      (message : Message) (entropy : Entropy) (e : Envelope) (secretNonce : Nonce),
      draft origin publicNonce sender recipients message entropy = .ok (e, secretNonce) →
      ∃ key keys, sender.asPublicKey = .ok key ∧ recipients.mapM Material.asPublicKey = .ok keys ∧
        e.verifyCommitment secretNonce origin key.bytes (keys.map PublicKey.bytes) message = true ∧
        ∀ (secretNonce' : Nonce) (origin' sender' : Bytes) (recipients' : List Bytes)
          (message' : Message),
          let drafted := e.subject secretNonce origin key.bytes (keys.map PublicKey.bytes) message
          let other := e.subject secretNonce' origin' sender' recipients' message'
          (drafted.Agree other →
            e.verifyCommitment secretNonce' origin' sender' recipients' message' = true) ∧
          (e.verifyCommitment secretNonce' origin' sender' recipients' message' = true →
            drafted.Agree other ∨ Collide drafted.hashed other.hashed) := by
  refine ⟨fun s t => ⟨Subject.Agree.digest_eq, agree_or_collide_of_digest_eq⟩, ?_⟩
  intro origin publicNonce sender recipients message entropy e secretNonce h
  obtain ⟨key, keys, hkey, hkeys, hcheck⟩ := verifyCommitment_of_draft h
  refine ⟨key, keys, hkey, hkeys, hcheck, ?_⟩
  intro secretNonce' origin' sender' recipients' message'
  have hdrafted := verifyCommitment_iff.mp hcheck
  constructor
  · intro hagree
    exact verifyCommitment_iff.mpr (hagree.digest_eq.symm.trans hdrafted)
  · intro hother
    exact agree_or_collide_of_digest_eq (hdrafted.trans (verifyCommitment_iff.mp hother).symm)

/-- A note of one entry to one recipient is bound in every field, and its kind is free. -/
theorem commitment_of_note_binds_all_but_kinds :
    let note (kind : Kind) : Message := ⟨[⟨[1, 2], [3], kind⟩]⟩
    let sender : Bytes := List.replicate 32 9
    let recipient : Bytes := List.replicate 32 10
    ∃ e secretNonce,
      draft [4] (.bytes (List.replicate 24 5)) (.bytes sender) [.bytes recipient] (note .raw)
        ⟨[]⟩ = .ok (e, secretNonce) ∧
      e.verifyCommitment secretNonce [4] sender [recipient] (note .raw) = true ∧
      e.verifyCommitment secretNonce [4] sender [recipient] (note .file) = true ∧
      (let raw := e.subject secretNonce [4] sender [recipient] (note .raw)
       let file := e.subject secretNonce [4] sender [recipient] (note .file)
       raw.digest = file.digest ∧ (raw.Agree file ∨ Collide raw.hashed file.hashed)) := by
  intro note sender recipient
  have hdraft : (draft [4] (.bytes (List.replicate 24 5)) (.bytes sender) [.bytes recipient]
      (note .raw) ⟨[]⟩).isOk = true := by decide +kernel
  cases h : draft [4] (.bytes (List.replicate 24 5)) (.bytes sender) [.bytes recipient]
      (note .raw) ⟨[]⟩ with
  | error fault => rw [h] at hdraft; cases hdraft
  | ok result =>
      obtain ⟨e, secretNonce⟩ := result
      obtain ⟨key, keys, hkey, hkeys, hcheck, hother⟩ :=
        commitment_binds_all_but_kinds.2 _ _ _ _ _ _ e secretNonce h
      cases hkey
      cases hkeys
      have hagree : (e.subject secretNonce [4] sender [recipient] (note .raw)).Agree
          (e.subject secretNonce [4] sender [recipient] (note .file)) :=
        ⟨rfl, rfl, rfl, rfl, rfl, rfl, rfl⟩
      have hdigest := (commitment_binds_all_but_kinds.1 _ _).1 hagree
      have hfile := (hother secretNonce [4] sender [recipient] (note .file)).1 hagree
      exact ⟨e, secretNonce, rfl, hcheck, hfile, hdigest, (hother _ _ _ _ _).2 hfile⟩

end Envelope
end SealedPost
