import SealedPost.Proofs.Base64
import SealedPost.Proofs.Json.Sizes
import SealedPost.Wire.Records
import Mathlib.Data.List.Forall2
import Mathlib.Tactic.Ring

/-!
# How long records are

Bytes are written in base64, which needs no escapes, so the size of a document depends on the
lengths of the bytes in it and not on the bytes. An entry shows its kind besides. An envelope with
one channel for each party, each with one sealed key for each party, has a size that the number of
parties determines.
-/

namespace SealedPost

open Wire

/-- What the document of an entry shows by its size: the lengths of key and value, and the kind. -/
def Entry.shape (e : Entry) : Nat × Nat × Kind := (e.key.length, e.value.length, e.kind)

/-- The shapes of the entries of a message, in order. -/
def Message.shape (m : Message) : List (Nat × Nat × Kind) := m.entries.map Entry.shape

/-- A channel for a number of parties: the nonce is sealed to 40 bytes, and there is a sealed key
of 48 bytes for each party. -/
structure Channel.Shaped (parties : Nat) (c : Channel) : Prop where
  nonce : c.sealedNonce.length = 40
  count : c.sealedParticipants.length = parties
  participants : ∀ p ∈ c.sealedParticipants, p.length = 48

/-- An envelope for a number of parties: a nonce of 24 bytes, a key and a commitment of 32 each,
and a channel for each party. -/
structure Envelope.Shaped (parties : Nat) (e : Envelope) : Prop where
  publicNonce : e.publicNonce.length = 24
  relayKey : e.relayKey.length = 32
  commitment : e.commitment.length = 32
  count : e.channels.length = parties
  channels : ∀ c ∈ e.channels, c.Shaped parties

/-- The size of the document of a channel for a number of parties, for the sizes of the separators
between items and after names. -/
def Channel.documentSize (item name parties : Nat) : Nat :=
  110 + 2 * name + item + (parties * 66 + (parties - 1) * item)

/-- The size of the document of an envelope for a number of parties. -/
def Envelope.documentSize (item name parties : Nat) : Nat :=
  181 + 4 * name + 3 * item +
    (parties * Channel.documentSize item name parties + (parties - 1) * item)

/-- The digits and the padding of base64 are written as they are. -/
theorem Base64.isLiteral_of_mem_encode {bytes : Bytes} :
    ∀ c ∈ encode bytes, Json.isLiteral c = true := by
  have hdigit : ∀ n < 64, Json.isLiteral (standardDigit n) = true := by decide
  intro c hc
  rcases mem_encode hc with rfl | ⟨n, hn, rfl⟩
  · decide
  · exact hdigit n hn

section Sizes

variable {size : Text → Nat} (hsize : Text.Size size) (s : Json.Style)

include hsize

theorem Wire.size_blobJson (bytes : Bytes) :
    size (Json.write s (blobJson bytes)) = 4 * ((bytes.length + 2) / 3) + 2 := by
  rw [blobJson, Json.write, Json.size_writeString hsize s Base64.isLiteral_of_mem_encode,
    Base64.length_encode]

/-- The size of an entry follows from its shape. -/
theorem Entry.size_toJson_of_shape_eq {e e' : Entry} (h : e.shape = e'.shape) :
    size (Json.write s e.toJson) = size (Json.write s e'.toJson) := by
  simp only [shape, Prod.mk.injEq] at h
  obtain ⟨hkey, hvalue, hkind⟩ := h
  simp only [toJson, Json.size_write_obj hsize, List.map_cons, List.map_nil,
    size_blobJson hsize s, hkey, hvalue, hkind, List.length_cons]

/-- The size of a message follows from the shapes of its entries. -/
theorem Message.size_toJson_of_shape_eq {m m' : Message} (h : m.shape = m'.shape) :
    size (Json.write s m.toJson) = size (Json.write s m'.toJson) := by
  have hentries : List.Forall₂ (fun e e' : Entry => e.shape = e'.shape) m.entries m'.entries := by
    rw [shape, shape, ← List.forall₂_eq_eq_eq, List.forall₂_map_left_iff,
      List.forall₂_map_right_iff] at h
    exact h
  have hsizes : (m.entries.map Entry.toJson).map (fun v => size (Json.write s v)) =
      (m'.entries.map Entry.toJson).map fun v => size (Json.write s v) := by
    rw [List.map_map, List.map_map, ← List.forall₂_eq_eq_eq, List.forall₂_map_left_iff,
      List.forall₂_map_right_iff]
    exact hentries.imp fun _ _ => Entry.size_toJson_of_shape_eq hsize s
  have hlist : size (Json.write s (.arr (m.entries.map Entry.toJson))) =
      size (Json.write s (.arr (m'.entries.map Entry.toJson))) := by
    simp only [Json.size_write_arr hsize, hsizes, List.length_map, hentries.length_eq]
  simp only [toJson, Json.size_write_obj hsize, List.map_cons, List.map_nil, hlist,
    List.length_cons]

/-- An array of items of one size. -/
theorem Json.size_write_arr_of_forall {items : List Json} {k : Nat}
    (h : ∀ v ∈ items, size (write s v) = k) :
    size (write s (.arr items)) =
      2 + (items.length * k + (items.length - 1) * size s.itemSeparator) := by
  rw [size_write_arr hsize, List.map_congr_left h, List.map_const', List.sum_replicate_nat,
    Nat.add_assoc]

/-- The size of a channel follows from the number of parties. -/
theorem Channel.Shaped.size_toJson {parties : Nat} {c : Channel} (h : c.Shaped parties) :
    size (Json.write s c.toJson) =
      documentSize (size s.itemSeparator) (size s.nameSeparator) parties := by
  have hnonce : size (Json.write s (blobJson c.sealedNonce)) = 58 := by
    rw [size_blobJson hsize, h.nonce]
  have hparticipants : size (Json.write s (.arr (c.sealedParticipants.map blobJson))) =
      2 + (parties * 66 + (parties - 1) * size s.itemSeparator) := by
    rw [Json.size_write_arr_of_forall hsize s (k := 66), List.length_map, h.count]
    intro v hv
    obtain ⟨p, hp, rfl⟩ := List.mem_map.mp hv
    rw [size_blobJson hsize, h.participants p hp]
  have hname : size (Json.writeString s "encrypted_secret_nonce") = 24 :=
    Json.size_writeString hsize s (by decide)
  have hname' : size (Json.writeString s "encrypted_participants") = 24 :=
    Json.size_writeString hsize s (by decide)
  simp only [toJson, Json.size_write_obj hsize, List.map_cons, List.map_nil, List.sum_cons,
    List.sum_nil, List.length_cons, List.length_nil, hnonce, hparticipants, hname, hname',
    documentSize]
  omega

/-- The size of an envelope follows from the number of parties. -/
theorem Envelope.Shaped.size_toJson {parties : Nat} {e : Envelope} (h : e.Shaped parties) :
    size (Json.write s e.toJson) =
      documentSize (size s.itemSeparator) (size s.nameSeparator) parties := by
  have hnonce : size (Json.write s (blobJson e.publicNonce)) = 34 := by
    rw [size_blobJson hsize, h.publicNonce]
  have hrelay : size (Json.write s (blobJson e.relayKey)) = 46 := by
    rw [size_blobJson hsize, h.relayKey]
  have hcommitment : size (Json.write s (blobJson e.commitment)) = 46 := by
    rw [size_blobJson hsize, h.commitment]
  have hchannels : size (Json.write s (.arr (e.channels.map Channel.toJson))) =
      2 + (parties * Channel.documentSize (size s.itemSeparator) (size s.nameSeparator) parties +
        (parties - 1) * size s.itemSeparator) := by
    rw [Json.size_write_arr_of_forall hsize s
      (k := Channel.documentSize (size s.itemSeparator) (size s.nameSeparator) parties),
      List.length_map, h.count]
    intro v hv
    obtain ⟨c, hc, rfl⟩ := List.mem_map.mp hv
    exact (h.channels c hc).size_toJson hsize s
  have hname : size (Json.writeString s "public_nonce") = 14 :=
    Json.size_writeString hsize s (by decide)
  have hname₁ : size (Json.writeString s "relay_pk") = 10 :=
    Json.size_writeString hsize s (by decide)
  have hname₂ : size (Json.writeString s "commitment_hash") = 17 :=
    Json.size_writeString hsize s (by decide)
  have hname₃ : size (Json.writeString s "channels") = 10 :=
    Json.size_writeString hsize s (by decide)
  simp only [toJson, Json.size_write_obj hsize, List.map_cons, List.map_nil, List.sum_cons,
    List.sum_nil, List.length_cons, List.length_nil, hnonce, hrelay, hcommitment, hchannels, hname,
    hname₁, hname₂, hname₃, documentSize]
  omega

end Sizes

/-- The size of an envelope in its compact form grows with the square of the number of parties. -/
theorem Envelope.documentSize_compact {parties : Nat} (h : parties ≠ 0) :
    documentSize 1 1 parties = 67 * parties ^ 2 + 113 * parties + 187 := by
  obtain ⟨n, rfl⟩ := Nat.exists_eq_succ_of_ne_zero h
  simp only [documentSize, Channel.documentSize, Nat.succ_eq_add_one, Nat.add_sub_cancel]
  ring

end SealedPost
