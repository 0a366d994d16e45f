import SealedPost.Intake
import SealedPost.Proofs.Box

/-!
# A box opens exactly what it seals

Under one nonce the sealing of bytes has an inverse on what was sealed, and nothing else is
authentic. A message is sealed entry by entry, so the same holds of messages: a message opens if
all its parts were sealed in the box, and otherwise it fails as a whole and tells the peer.
-/

namespace SealedPost

open Crypto

/-- A conversion that never fails gives a message. -/
theorem Message.mapBytes_ok {ε : Type} (convert : Bytes → Bytes) (m : Message) :
    m.mapBytes (fun b => (.ok (convert b) : Except ε Bytes)) =
      .ok ⟨m.entries.map fun e => ⟨convert e.key, convert e.value, e.kind⟩⟩ := by
  refine Attempt.bind_eq_ok_iff.mpr ⟨_, Attempt.mapM_eq_ok_iff.mpr ?_, rfl⟩
  rw [List.forall₂_map_right_iff, List.forall₂_same]
  intro e _
  rfl

namespace Box

/-- What a box does with bytes under a nonce: all bytes can be sealed, which adds the length of a
tag, and what opens to some bytes is their sealing. All else is not authentic. -/
structure InvertsBytes (box : Box) (nonce : Material) : Prop where
  seals : ∀ plaintext, ∃ ciphertext, Intake.encrypt box nonce (.bytes plaintext) = .ok ciphertext ∧
    ciphertext.length = plaintext.length + 16
  opens : ∀ ciphertext plaintext,
    Intake.tryDecrypt box nonce (.bytes ciphertext) = .ok (some plaintext) ↔
      Intake.encrypt box nonce (.bytes plaintext) = .ok ciphertext
  rejects : ∀ ciphertext,
    (∀ plaintext, Intake.encrypt box nonce (.bytes plaintext) ≠ .ok ciphertext) →
      Intake.tryDecrypt box nonce (.bytes ciphertext) = .ok none
  short : ∀ ciphertext : Bytes, ciphertext.length < 16 →
    Intake.tryDecrypt box nonce (.bytes ciphertext) = .ok none

/-- What a box does with messages under a nonce: all messages can be sealed, and what opens to a
message is its sealing, entry by entry, in order and with the kinds as they are. All else fails
and tells the peer. -/
structure InvertsMessages (box : Box) (nonce : Material) : Prop where
  seals : ∀ m, ∃ sealedMessage, box.encryptMessageWith nonce m = .ok sealedMessage
  opens : ∀ sealedMessage m, box.decryptMessageWith nonce sealedMessage = .ok m ↔
    box.encryptMessageWith nonce m = .ok sealedMessage
  rejects : ∀ sealedMessage, (∀ m, box.encryptMessageWith nonce m ≠ .ok sealedMessage) →
    box.decryptMessageWith nonce sealedMessage = .error (.decryptionFailed box.peer.bytes)
  entries : ∀ sealedMessage m, box.decryptMessageWith nonce sealedMessage = .ok m ↔
    List.Forall₂ (fun s e => Intake.tryDecrypt box nonce (.bytes s.key) = .ok (some e.key) ∧
      Intake.tryDecrypt box nonce (.bytes s.value) = .ok (some e.value) ∧ s.kind = e.kind)
      sealedMessage.entries m.entries
  genuine : ∀ sealedMessage other m, box.decryptMessageWith nonce sealedMessage = .ok m →
    box.decryptMessageWith nonce other = .ok m → sealedMessage = other

section Nonce

variable {box : Box} {material : Material} {nonce : Nonce} (h : material.nonce = .ok nonce)
include h

theorem intake_encrypt_eq (plaintext : Bytes) :
    Intake.encrypt box material (.bytes plaintext) = .ok (box.encrypt nonce plaintext) := by
  simp only [Intake.encrypt, Intake.step, h]
  rfl

theorem intake_tryDecrypt_eq (ciphertext : Bytes) :
    Intake.tryDecrypt box material (.bytes ciphertext) = .ok (box.decrypt? nonce ciphertext) := by
  simp only [Intake.tryDecrypt, Intake.step, h]
  rfl

theorem encryptMessageWith_eq (m : Message) :
    box.encryptMessageWith material m = .ok (box.encryptMessage nonce m) := by
  have hbytes : box.encryptWith material = fun b => .ok (box.encrypt nonce b) := by
    funext b
    rw [encryptWith, h, Attempt.ok_bind]
    rfl
  rw [encryptMessageWith, hbytes, Message.mapBytes_ok, encryptMessage, planMessage, List.map_map]
  rfl

theorem decryptMessageWith_eq (m : Message) :
    box.decryptMessageWith material m = box.decryptMessage nonce m := by
  have hbytes : box.decryptWith material = box.decrypt nonce := by
    funext b
    rw [decryptWith, h, Attempt.ok_bind]
  rw [decryptMessageWith, hbytes, decryptMessage]

theorem invertsBytes : box.InvertsBytes material where
  seals := by
    intro plaintext
    refine ⟨_, intake_encrypt_eq h plaintext, ?_⟩
    exact SecretBox.length_encrypt ..
  opens := by
    intro ciphertext plaintext
    rw [intake_tryDecrypt_eq h, intake_encrypt_eq h, Except.ok.injEq, Except.ok.injEq,
      decrypt?_eq_some_iff, eq_comm]
  rejects := by
    intro ciphertext hnone
    rw [intake_tryDecrypt_eq h]
    cases hopen : box.decrypt? nonce ciphertext with
    | none => rfl
    | some plaintext =>
        apply absurd _ (hnone plaintext)
        rw [intake_encrypt_eq h, decrypt?_eq_some_iff.mp hopen]
  short := by
    intro ciphertext hshort
    rw [intake_tryDecrypt_eq h, decrypt?, SecretBox.decrypt?, SecretBox.tagSize, if_pos hshort]

theorem invertsMessages : box.InvertsMessages material where
  seals := by
    intro m
    exact ⟨_, encryptMessageWith_eq h m⟩
  opens := by
    intro sealedMessage m
    rw [decryptMessageWith_eq h, encryptMessageWith_eq h, decryptMessage_eq_ok_iff,
      Except.ok.injEq, eq_comm]
  rejects := by
    intro sealedMessage hnone
    rw [decryptMessageWith_eq h]
    cases hopen : box.decryptMessage nonce sealedMessage with
    | error fault => rw [eq_decryptionFailed_of_decryptMessage hopen]
    | ok m =>
        apply absurd _ (hnone m)
        rw [encryptMessageWith_eq h, decryptMessage_eq_ok_iff.mp hopen]
  entries := by
    intro sealedMessage m
    simp only [intake_tryDecrypt_eq h, Except.ok.injEq]
    rw [decryptMessageWith_eq h, decryptMessage_eq_ok_iff_entries]
  genuine := by
    intro sealedMessage other m hsealed hother
    rw [decryptMessageWith_eq h, decryptMessage_eq_ok_iff] at hsealed hother
    exact hsealed.trans hother.symm

end Nonce

end Box

theorem encryptMessageFor_eq_ok_iff {m sealedMessage : Message} {nonce peer own : Material} :
    encryptMessageFor m nonce peer own = .ok sealedMessage ↔ ∃ n box, nonce.nonce = .ok n ∧
      Box.ofMaterial peer own = .ok box ∧ sealedMessage = box.encryptMessage n m := by
  simp only [encryptMessageFor, Attempt.bind_eq_ok_iff, Attempt.pure_eq_ok_iff,
    @eq_comm Message sealedMessage]
  constructor
  · rintro ⟨n, hnonce, box, hbox, hsealed⟩
    exact ⟨n, box, hnonce, hbox, hsealed⟩
  · rintro ⟨n, box, hnonce, hbox, hsealed⟩
    exact ⟨n, hnonce, box, hbox, hsealed⟩

theorem decryptMessageFrom_eq_ok_iff {m sealedMessage : Message} {nonce peer own : Material} :
    decryptMessageFrom sealedMessage nonce peer own = .ok m ↔ ∃ n box, nonce.nonce = .ok n ∧
      Box.ofMaterial peer own = .ok box ∧ sealedMessage = box.encryptMessage n m := by
  simp only [decryptMessageFrom, Attempt.bind_eq_ok_iff, Box.decryptMessage_eq_ok_iff]
  constructor
  · rintro ⟨n, hnonce, box, hbox, hsealed⟩
    exact ⟨n, box, hnonce, hbox, hsealed⟩
  · rintro ⟨n, box, hnonce, hbox, hsealed⟩
    exact ⟨n, hnonce, box, hbox, hsealed⟩

/-- What the owner of one key encrypts for the owner of another opens to the same message for both,
in whatever form the keys are handed in. -/
def SecretKey.Exchanges (a b : SecretKey) (nonce : Material) : Prop :=
  ∀ aPublic bPublic aSecret bSecret : Material,
    aPublic.asPublicKey = .ok a.publicKey → bPublic.asPublicKey = .ok b.publicKey →
    aSecret.asSecretKey = .ok a → bSecret.asSecretKey = .ok b →
    ∀ m sealedMessage, encryptMessageFor m nonce bPublic aSecret = .ok sealedMessage →
      decryptMessageFrom sealedMessage nonce aPublic bSecret = .ok m ∧
        decryptMessageFrom sealedMessage nonce bPublic aSecret = .ok m

theorem SecretKey.Symmetric.exchanges {a b : SecretKey} (hsym : a.Symmetric b) (nonce : Material) :
    a.Exchanges b nonce := by
  intro aPublic bPublic aSecret bSecret haPublic hbPublic haSecret hbSecret m sealedMessage h
  obtain ⟨n, box, hnonce, hbox, rfl⟩ := encryptMessageFor_eq_ok_iff.mp h
  obtain ⟨peerKey, ownKey, hpeer, hown, hagree⟩ := Box.ofMaterial_eq_ok_iff.mp hbox
  cases hbPublic.symm.trans hpeer
  cases haSecret.symm.trans hown
  obtain ⟨other, hother, hkey⟩ := Box.agree_of_symmetric hsym hagree
  constructor
  · apply decryptMessageFrom_eq_ok_iff.mpr
    refine ⟨n, other, hnonce, ?_, ?_⟩
    · exact Box.ofMaterial_eq_ok_iff.mpr ⟨_, _, haPublic, hbSecret, hother⟩
    · exact Box.decryptMessage_eq_ok_iff.mp (Box.decryptMessage_encryptMessage hkey n m)
  · exact decryptMessageFrom_eq_ok_iff.mpr ⟨n, box, hnonce, hbox, rfl⟩

/-- Under every nonce opening and sealing in a box are inverse to each other, for bytes and for
messages, and what one of two parties with a symmetric agreement seals opens for both. -/
theorem box_opens_exactly_what_it_seals {peer own nonce : Material} {box : Box} {n : Nonce}
    (hbox : Box.ofMaterial peer own = .ok box) (hnonce : nonce.nonce = .ok n) :
    peer.asPublicKey = .ok box.peer ∧ box.InvertsBytes nonce ∧ box.InvertsMessages nonce ∧
      ∀ a b : SecretKey, a.Symmetric b → a.Exchanges b nonce := by
  obtain ⟨peerKey, ownKey, hpeer, -, hagree⟩ := Box.ofMaterial_eq_ok_iff.mp hbox
  refine ⟨?_, Box.invertsBytes hnonce, Box.invertsMessages hnonce, fun a b hsym => ?_⟩
  · rw [hpeer, Box.peer_of_agree hagree]
  · exact hsym.exchanges nonce

/-- The owners of two keys that agree from both sides. -/
def entrySender : SecretKey := ⟨List.replicate 32 21, List.length_replicate⟩

@[inherit_doc entrySender]
def entryReceiver : SecretKey := ⟨List.replicate 32 22, List.length_replicate⟩

theorem entrySender_symmetric : entrySender.Symmetric entryReceiver := by
  decide +kernel

theorem exists_box_of_entrySender :
    ∃ box, Box.agree entryReceiver.publicKey entrySender = .ok box :=
  Attempt.exists_eq_ok_of_isOk (by decide +kernel)

/-- An entry without a key that the one seals opens for both, and what is too short for a tag opens
for nobody. -/
theorem both_sides_open_entry :
    let nonce := Material.bytes (List.replicate 24 5)
    let m : Message := ⟨[⟨[], [3], .text⟩]⟩
    ∃ box sealedMessage,
      Box.ofMaterial (.publicKey entryReceiver.publicKey) (.secretKey entrySender) = .ok box ∧
      box.encryptMessageWith nonce m = .ok sealedMessage ∧
      box.decryptMessageWith nonce sealedMessage = .ok m ∧
      Intake.tryDecrypt box nonce (.bytes (List.replicate 15 1)) = .ok none ∧
      decryptMessageFrom sealedMessage nonce (.publicKey entrySender.publicKey)
        (.secretKey entryReceiver) = .ok m := by
  intro nonce m
  obtain ⟨box, hagree⟩ := exists_box_of_entrySender
  have hbox : Box.ofMaterial (.publicKey entryReceiver.publicKey) (.secretKey entrySender) =
      .ok box :=
    Box.ofMaterial_eq_ok_iff.mpr ⟨_, _, rfl, rfl, hagree⟩
  have hnonce : nonce.nonce = .ok ⟨List.replicate 24 5, List.length_replicate⟩ :=
    Material.nonce_eq_ok_iff.mpr rfl
  obtain ⟨-, hbytes, hmessages, hexchange⟩ := box_opens_exactly_what_it_seals hbox hnonce
  obtain ⟨sealedMessage, hsealed⟩ := hmessages.seals m
  have hfor : encryptMessageFor m nonce (.publicKey entryReceiver.publicKey)
      (.secretKey entrySender) = .ok sealedMessage := by
    rw [Box.encryptMessageWith_eq hnonce] at hsealed
    exact encryptMessageFor_eq_ok_iff.mpr ⟨_, box, hnonce, hbox, (Except.ok.inj hsealed).symm⟩
  refine ⟨box, sealedMessage, hbox, hsealed, (hmessages.opens _ _).mpr hsealed, ?_, ?_⟩
  · exact hbytes.short _ (by decide)
  · exact (hexchange _ _ entrySender_symmetric _ _ _ _ rfl rfl rfl rfl _ _ hfor).1

end SealedPost
