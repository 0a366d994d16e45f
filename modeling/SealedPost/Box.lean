import SealedPost.Crypto.SecretBox
import SealedPost.Key
import SealedPost.Message

/-! # Boxes

A box lies between one peer's public key and one's own secret key. The key that both
sides agree on is computed once; the box then encrypts and decrypts under nonces that
travel apart. Each encryption is a sealing: a key, a nonce and a plaintext. -/

namespace SealedPost

open Crypto

/-- One encryption to be done. -/
structure Sealing where
  key : Bytes
  nonce : Nonce
  plaintext : Bytes
deriving DecidableEq

/-- The result of a sealing. -/
def Sealing.ciphertext (s : Sealing) : Bytes :=
  SecretBox.encrypt s.key s.nonce.bytes s.plaintext

/-- The plan for an encrypted entry: what is done to its key and to its value. -/
structure EntryPlan where
  key : Sealing
  value : Sealing
  kind : Kind

/-- The entry that a plan gives. -/
def EntryPlan.entry (p : EntryPlan) : Entry := ⟨p.key.ciphertext, p.value.ciphertext, p.kind⟩

/-- The sealings of a plan, in the order in which they are done. -/
def EntryPlan.sealings (p : EntryPlan) : List Sealing := [p.key, p.value]

/-- A peer's public key and the key agreed on with the peer. -/
structure Box where
  peer : PublicKey
  key : Bytes

namespace Box

/-- The box between a peer and oneself, unless the agreement is refused. -/
def agree (peer : PublicKey) (own : SecretKey) : Except BoxFault Box :=
  (X25519.agree? own.bytes peer.bytes).elim (.error .agreementRefused) fun shared =>
    .ok ⟨peer, Salsa20.deriveKey shared (List.replicate 16 0)⟩

/-- The box from material: the peer's key is taken first. -/
def ofMaterial (peer own : Material) : Except BoxFault Box := do
  let peer ← peer.asPublicKey
  let own ← own.asSecretKey
  agree peer own

/-- The sealing of a plaintext in a box. -/
def sealing (box : Box) (nonce : Nonce) (plaintext : Bytes) : Sealing :=
  ⟨box.key, nonce, plaintext⟩

/-- Encrypts bytes. -/
def encrypt (box : Box) (nonce : Nonce) (plaintext : Bytes) : Bytes :=
  (box.sealing nonce plaintext).ciphertext

/-- Decrypts bytes; none if they are not authentic. -/
def decrypt? (box : Box) (nonce : Nonce) (ciphertext : Bytes) : Option Bytes :=
  SecretBox.decrypt? box.key nonce.bytes ciphertext

/-- Decrypts bytes; the failure names the peer. -/
def decrypt (box : Box) (nonce : Nonce) (ciphertext : Bytes) : Except BoxFault Bytes :=
  match box.decrypt? nonce ciphertext with
  | some plaintext => .ok plaintext
  | none => .error (.decryptionFailed box.peer.bytes)

theorem decrypt?_eq_some_iff {box : Box} {nonce : Nonce} {ciphertext plaintext : Bytes} :
    box.decrypt? nonce ciphertext = some plaintext ↔
      ciphertext = box.encrypt nonce plaintext :=
  SecretBox.decrypt?_eq_some_iff

/-- The plans for the entries of a message. -/
def planMessage (box : Box) (nonce : Nonce) (m : Message) : List EntryPlan :=
  m.entries.map fun e => ⟨box.sealing nonce e.key, box.sealing nonce e.value, e.kind⟩

/-- Encrypts keys and values of a message; order, number and kinds stay. -/
def encryptMessage (box : Box) (nonce : Nonce) (m : Message) : Message :=
  ⟨(box.planMessage nonce m).map EntryPlan.entry⟩

/-- Decrypts keys and values of a message; the first failure ends it. -/
def decryptMessage (box : Box) (nonce : Nonce) (m : Message) : Except BoxFault Message :=
  m.mapBytes (box.decrypt nonce)

/-- As `encrypt`, with the nonce taken from material. -/
def encryptWith (box : Box) (nonce : Material) (plaintext : Bytes) : Except BoxFault Bytes := do
  let nonce ← nonce.nonce
  pure (box.encrypt nonce plaintext)

/-- As `decrypt`, with the nonce taken from material. -/
def decryptWith (box : Box) (nonce : Material) (ciphertext : Bytes) :
    Except BoxFault Bytes := do
  let nonce ← nonce.nonce
  box.decrypt nonce ciphertext

/-- As `encryptMessage`, with the nonce taken from material at each field. -/
def encryptMessageWith (box : Box) (nonce : Material) (m : Message) :
    Except BoxFault Message :=
  m.mapBytes (box.encryptWith nonce)

/-- As `decryptMessage`, with the nonce taken from material at each field. -/
def decryptMessageWith (box : Box) (nonce : Material) (m : Message) :
    Except BoxFault Message :=
  m.mapBytes (box.decryptWith nonce)

end Box

/-- Encrypts a message for a peer. The nonce is checked before the keys. -/
def encryptMessageFor (m : Message) (nonce peer own : Material) :
    Except BoxFault Message := do
  let nonce ← nonce.nonce
  let box ← Box.ofMaterial peer own
  pure (box.encryptMessage nonce m)

/-- Decrypts a message from a peer. The nonce is checked before the keys. -/
def decryptMessageFrom (m : Message) (nonce peer own : Material) :
    Except BoxFault Message := do
  let nonce ← nonce.nonce
  let box ← Box.ofMaterial peer own
  box.decryptMessage nonce m

end SealedPost
