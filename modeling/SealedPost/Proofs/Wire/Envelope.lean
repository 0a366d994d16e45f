import SealedPost.Proofs.Wire.RoundTrip

/-!
# Envelopes read back

An envelope is written as a document of strings, arrays and objects, so its bytes read as that
document, and the checks give the envelope again, wherever the document comes from.
-/

namespace SealedPost

open Wire

namespace Channel

theorem ofJson_toJson (source : Source) (c : Channel) : ofJson source c.toJson = .ok c := by
  have hlist : list source blob (.arr (c.sealedParticipants.map blobJson)) =
      .ok c.sealedParticipants :=
    Checked.each_map blob_blobJson 0 c.sealedParticipants
  have hnonce : required "encrypted_secret_nonce" blob
      [("encrypted_secret_nonce", blobJson c.sealedNonce),
        ("encrypted_participants", .arr (c.sealedParticipants.map blobJson))] =
      .ok c.sealedNonce :=
    required_of_member? (by simp [Json.member?]) (blob_blobJson c.sealedNonce)
  have hparticipants : required "encrypted_participants" (list source blob)
      [("encrypted_secret_nonce", blobJson c.sealedNonce),
        ("encrypted_participants", .arr (c.sealedParticipants.map blobJson))] =
      .ok c.sealedParticipants :=
    required_of_member? (by simp [Json.member?, Text.ofString]) hlist
  simp only [ofJson, toJson, record, hnonce, hparticipants, Checked.both_ok]
  rfl

theorem plain_toJson (depth : Nat) (c : Channel) : Json.Plain (depth + 2) c.toJson :=
  .of_forall (by simp [Text.ofString])
    ⟨⟨rfl, plain_blobJson (depth + 1) c.sealedNonce⟩,
      rfl, .map (plain_blobJson depth) c.sealedParticipants⟩

end Channel

namespace Envelope

theorem ofJson_toJson (source : Source) (e : Envelope) : ofJson source e.toJson = .ok e := by
  have hlist : list source (Channel.ofJson source) (.arr (e.channels.map Channel.toJson)) =
      .ok e.channels :=
    Checked.each_map (Channel.ofJson_toJson source) 0 e.channels
  let members : List (Text × Json) :=
    [("public_nonce", blobJson e.publicNonce), ("relay_pk", blobJson e.relayKey),
      ("commitment_hash", blobJson e.commitment),
      ("channels", .arr (e.channels.map Channel.toJson))]
  have hnonce : required "public_nonce" blob members = .ok e.publicNonce :=
    required_of_member? (by simp [members, Json.member?]) (blob_blobJson e.publicNonce)
  have hrelay : required "relay_pk" blob members = .ok e.relayKey :=
    required_of_member? (by simp [members, Json.member?, Text.ofString]) (blob_blobJson e.relayKey)
  have hcommitment : required "commitment_hash" blob members = .ok e.commitment :=
    required_of_member? (by simp [members, Json.member?, Text.ofString])
      (blob_blobJson e.commitment)
  have hchannels : required "channels" (list source (Channel.ofJson source)) members =
      .ok e.channels :=
    required_of_member? (by simp [members, Json.member?, Text.ofString]) hlist
  rw [ofJson, show e.toJson = .obj members from rfl, record, hnonce, hrelay, hcommitment, hchannels]
  rfl

theorem plain_toJson (depth : Nat) (e : Envelope) : Json.Plain (depth + 4) e.toJson :=
  .of_forall (by simp [Text.ofString])
    ⟨⟨rfl, plain_blobJson (depth + 3) e.publicNonce⟩,
      ⟨rfl, plain_blobJson (depth + 3) e.relayKey⟩,
      ⟨rfl, plain_blobJson (depth + 3) e.commitment⟩,
      rfl, .map (Channel.plain_toJson depth) e.channels⟩

/-- The bytes of the document of an envelope. -/
def toBytes (e : Envelope) : Bytes := Utf8.encode (Json.writeCompact e.toJson)

/-- An envelope comes out of the bytes of another: a reader of stored records reads it there, and
so does one who takes the bytes for a document and checks what it holds, wherever it is from. -/
structure Arrives (e e' : Envelope) : Prop where
  stored : readStored ofJson e.toBytes = .ok e'
  document : ∀ source, ∃ v, Json.readDocument e.toBytes = .ok v ∧ ofJson source v = .ok e'

/-- An envelope arrives as it was written. -/
theorem arrives (e : Envelope) : e.Arrives e where
  stored := by
    rw [readStored, toBytes, Json.readStored?_writeCompact (plain_toJson 0 e) (by decide)]
    exact ofJson_toJson .stored e
  document := fun source =>
    ⟨e.toJson, Json.readDocument_writeCompact (plain_toJson 0 e), ofJson_toJson source e⟩

end Envelope
end SealedPost
