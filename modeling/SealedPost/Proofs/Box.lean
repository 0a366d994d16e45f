import SealedPost.Box
import SealedPost.Proofs.Attempt

/-!
# Boxes from both sides

What is encrypted in a box opens in every box with the same key, and two parties have the
same key if their agreement does not depend on the side. In a box with another key a
message either opens, if it has no entries, or fails in the foreseen way.
-/

namespace SealedPost

open Crypto

/-- Two secret keys agree from both sides: either of them with the public key of the other
gives the same shared secret, or the same refusal. -/
def SecretKey.Symmetric (a b : SecretKey) : Prop :=
  X25519.agree? a.bytes b.publicKey.bytes = X25519.agree? b.bytes a.publicKey.bytes

instance (a b : SecretKey) : Decidable (a.Symmetric b) :=
  inferInstanceAs (Decidable (_ = _))

namespace Box

theorem agree_eq_ok_iff {peer : PublicKey} {own : SecretKey} {box : Box} :
    agree peer own = .ok box ↔ ∃ shared, X25519.agree? own.bytes peer.bytes = some shared ∧
      box = ⟨peer, Salsa20.deriveKey shared (List.replicate 16 0)⟩ := by
  unfold agree
  generalize X25519.agree? own.bytes peer.bytes = agreed
  cases agreed with
  | none => simp
  | some shared => simp [eq_comm]

theorem peer_of_agree {peer : PublicKey} {own : SecretKey} {box : Box}
    (h : agree peer own = .ok box) : box.peer = peer := by
  obtain ⟨shared, -, rfl⟩ := agree_eq_ok_iff.mp h
  rfl

/-- The box from material is that of the keys in it. -/
theorem ofMaterial_eq_ok_iff {peer own : Material} {box : Box} :
    ofMaterial peer own = .ok box ↔ ∃ peerKey ownKey, peer.asPublicKey = .ok peerKey ∧
      own.asSecretKey = .ok ownKey ∧ agree peerKey ownKey = .ok box := by
  simp only [ofMaterial, Attempt.bind_eq_ok_iff]
  constructor
  · rintro ⟨peerKey, hpeer, ownKey, hown, hbox⟩
    exact ⟨peerKey, ownKey, hpeer, hown, hbox⟩
  · rintro ⟨peerKey, ownKey, hpeer, hown, hbox⟩
    exact ⟨peerKey, hpeer, ownKey, hown, hbox⟩

/-- The other side of a box has a box with the same key. -/
theorem agree_of_symmetric {a b : SecretKey} {box : Box} (hsym : a.Symmetric b)
    (h : agree b.publicKey a = .ok box) :
    ∃ other, agree a.publicKey b = .ok other ∧ other.key = box.key := by
  obtain ⟨shared, hshared, rfl⟩ := agree_eq_ok_iff.mp h
  exact ⟨_, agree_eq_ok_iff.mpr ⟨shared, hsym.symm.trans hshared, rfl⟩, rfl⟩

/-- Boxes with one key encrypt alike. -/
theorem encrypt_of_key_eq {box other : Box} (h : box.key = other.key) :
    box.encrypt = other.encrypt := by
  funext nonce plaintext
  rw [encrypt, encrypt, sealing, sealing, h]

theorem decrypt_eq_ok_iff {box : Box} {nonce : Nonce} {ciphertext plaintext : Bytes} :
    box.decrypt nonce ciphertext = .ok plaintext ↔ ciphertext = box.encrypt nonce plaintext := by
  rw [← decrypt?_eq_some_iff, decrypt]
  cases box.decrypt? nonce ciphertext <;> simp

/-- There is one way in which bytes do not open. -/
theorem eq_decryptionFailed_of_decrypt {box : Box} {nonce : Nonce} {ciphertext : Bytes}
    {fault : BoxFault} (h : box.decrypt nonce ciphertext = .error fault) :
    fault = .decryptionFailed box.peer.bytes := by
  rw [decrypt] at h
  cases hplain : box.decrypt? nonce ciphertext <;> rw [hplain] at h <;> cases h
  rfl

theorem decrypt?_ciphertext {box other : Box} (h : box.key = other.key) (nonce : Nonce)
    (plaintext : Bytes) :
    box.decrypt? nonce (other.sealing nonce plaintext).ciphertext = some plaintext := by
  refine decrypt?_eq_some_iff.mpr ?_
  rw [encrypt_of_key_eq h, encrypt]

theorem decrypt_ciphertext {box other : Box} (h : box.key = other.key) (nonce : Nonce)
    (plaintext : Bytes) :
    box.decrypt nonce (other.sealing nonce plaintext).ciphertext = .ok plaintext := by
  rw [decrypt, decrypt?_ciphertext h]

/-- A message opens in every box with the key that it was encrypted under. -/
theorem decryptMessage_encryptMessage {box other : Box} (h : box.key = other.key)
    (nonce : Nonce) (m : Message) :
    box.decryptMessage nonce (other.encryptMessage nonce m) = .ok m := by
  refine Attempt.bind_eq_ok_iff.mpr ⟨m.entries, Attempt.mapM_eq_ok_iff.mpr ?_, rfl⟩
  rw [encryptMessage, planMessage, List.map_map, List.forall₂_map_left_iff, List.forall₂_same]
  intro e _
  refine Attempt.bind_eq_ok_iff.mpr ⟨e.key, decrypt_ciphertext h nonce e.key, ?_⟩
  exact Attempt.bind_eq_ok_iff.mpr ⟨e.value, decrypt_ciphertext h nonce e.value, rfl⟩

/-- A message opens in a box exactly if it is what the box makes of the message in it. -/
theorem decryptMessage_eq_ok_iff {box : Box} {nonce : Nonce} {encrypted m : Message} :
    box.decryptMessage nonce encrypted = .ok m ↔ encrypted = box.encryptMessage nonce m := by
  constructor
  · intro h
    obtain ⟨entries, hentries, hm⟩ := Attempt.bind_eq_ok_iff.mp h
    cases Attempt.pure_eq_ok_iff.mp hm
    have hall : List.Forall₂
        (fun e p => e = EntryPlan.entry ⟨box.sealing nonce p.key, box.sealing nonce p.value, p.kind⟩)
        encrypted.entries entries := by
      refine (Attempt.mapM_eq_ok_iff.mp hentries).imp ?_
      intro e p hp
      obtain ⟨key, hkey, hp⟩ := Attempt.bind_eq_ok_iff.mp hp
      obtain ⟨value, hvalue, hp⟩ := Attempt.bind_eq_ok_iff.mp hp
      cases Attempt.pure_eq_ok_iff.mp hp
      obtain ⟨sealedKey, sealedValue, kind⟩ := e
      cases decrypt_eq_ok_iff.mp hkey
      cases decrypt_eq_ok_iff.mp hvalue
      rfl
    rw [← List.forall₂_map_right_iff, List.forall₂_eq_eq_eq] at hall
    obtain ⟨sealedEntries⟩ := encrypted
    cases hall
    simp only [encryptMessage, planMessage, List.map_map]
    rfl
  · rintro rfl
    exact decryptMessage_encryptMessage rfl nonce m

/-- A message opens in a box entry by entry: each key and each value opens, and the kinds stay. -/
theorem decryptMessage_eq_ok_iff_entries {box : Box} {nonce : Nonce} {encrypted m : Message} :
    box.decryptMessage nonce encrypted = .ok m ↔
      List.Forall₂ (fun s e => box.decrypt? nonce s.key = some e.key ∧
        box.decrypt? nonce s.value = some e.value ∧ s.kind = e.kind)
        encrypted.entries m.entries := by
  have hentry (s e : Entry) :
      (box.decrypt? nonce s.key = some e.key ∧ box.decrypt? nonce s.value = some e.value ∧
        s.kind = e.kind) ↔
      s = EntryPlan.entry ⟨box.sealing nonce e.key, box.sealing nonce e.value, e.kind⟩ := by
    obtain ⟨key, value, kind⟩ := s
    simp only [decrypt?_eq_some_iff, EntryPlan.entry, Entry.mk.injEq, encrypt]
  simp only [hentry]
  rw [decryptMessage_eq_ok_iff, ← List.forall₂_map_right_iff, List.forall₂_eq_eq_eq]
  obtain ⟨sealedEntries⟩ := encrypted
  simp only [encryptMessage, planMessage, List.map_map, Message.mk.injEq]
  rfl

/-- There is one way in which a message does not open. -/
theorem eq_decryptionFailed_of_decryptMessage {box : Box} {nonce : Nonce} {m : Message}
    {fault : BoxFault} (h : box.decryptMessage nonce m = .error fault) :
    fault = .decryptionFailed box.peer.bytes := by
  rcases Attempt.bind_eq_error_iff.mp h with hentries | ⟨entries, -, hpure⟩
  · obtain ⟨e, -, he⟩ := Attempt.exists_of_mapM_eq_error hentries
    rcases Attempt.bind_eq_error_iff.mp he with hkey | ⟨key, -, he⟩
    · exact eq_decryptionFailed_of_decrypt hkey
    · rcases Attempt.bind_eq_error_iff.mp he with hvalue | ⟨value, -, hpure⟩
      · exact eq_decryptionFailed_of_decrypt hvalue
      · cases hpure
  · cases hpure

/-- A box that opens no key of an encrypted message fails at the first entry, and without
entries there is nothing to fail at. -/
theorem decryptMessage_of_forall_none {box other : Box} {nonce : Nonce} {m : Message}
    (h : ∀ p ∈ other.planMessage nonce m, box.decrypt? nonce p.key.ciphertext = none) :
    box.decryptMessage nonce (other.encryptMessage nonce m) = .ok m ∨
      box.decryptMessage nonce (other.encryptMessage nonce m) =
        .error (.decryptionFailed box.peer.bytes) := by
  obtain ⟨entries⟩ := m
  cases entries with
  | nil => exact .inl rfl
  | cons e entries =>
      have hkey : box.decrypt nonce (other.sealing nonce e.key).ciphertext =
          .error (.decryptionFailed box.peer.bytes) := by
        rw [decrypt, h ⟨other.sealing nonce e.key, other.sealing nonce e.value, e.kind⟩
          List.mem_cons_self]
      right
      simp only [decryptMessage, encryptMessage, planMessage, Message.mapBytes, List.map_cons,
        List.mapM_cons, EntryPlan.entry, hkey]
      rfl

end Box
end SealedPost
