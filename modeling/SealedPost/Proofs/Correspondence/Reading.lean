import SealedPost.Correspondence.Read
import SealedPost.Proofs.Attempt

/-!
# What a successful reading is

A message is read exactly if a channel opens whose participants include a sender, the
payload is a stored message, one of the peers opens it, and the commitment is the one to
what was found. There is no other way to a message.
-/

namespace SealedPost

/-- An envelope opens with material as with the secret key that the material is. -/
theorem Envelope.openWith_of_asSecretKey {e : Envelope} {own : Material} {key : SecretKey}
    (h : own.asSecretKey = .ok key) : e.openWith own = e.openWith (.secretKey key) := by
  have hkey : (Material.secretKey key).asSecretKey = .ok key := rfl
  rw [openWith, openWith, scanner, scanner, h, hkey]

namespace Correspondence

theorem readOpened_eq_ok_iff {origin : Bytes} {e : Envelope} {payload : Bytes}
    {own : SecretKey} {found : Discovery} {r : Received} :
    readOpened origin e payload own found = .ok r ↔
      found.participants = r.sender :: r.recipients ∧
        peers own.publicKey r.sender r.recipients ≠ [] ∧
        ∃ encrypted, Message.ofBytes payload = .ok encrypted ∧
          searchBody (decryptBody encrypted found.secretNonce own)
            (.decryptionFailed own.publicKey.bytes)
            (peers own.publicKey r.sender r.recipients) = .ok r.message ∧
          e.verifyCommitment found.secretNonce origin r.sender r.recipients r.message = true := by
  constructor
  · intro h
    unfold readOpened at h
    split at h
    · cases h
    · rename_i sender recipients hparts
      dsimp only at h
      split at h
      · cases h
      · rename_i hpeers
        split at h
        · cases h
        · rename_i encrypted hpayload
          split at h
          · cases h
          · rename_i message hbody
            split at h
            · rename_i hcheck
              cases h
              exact ⟨hparts, by simpa using hpeers, encrypted, hpayload, hbody, hcheck⟩
            · cases h
  · rintro ⟨hparts, hpeers, encrypted, hpayload, hbody, hcheck⟩
    have hsome : (peers own.publicKey r.sender r.recipients).isEmpty = false :=
      List.isEmpty_eq_false_iff.mpr hpeers
    simp [readOpened, hparts, hsome, hpayload, hbody, hcheck]

/-- A reading gives a message exactly if its own channel opens and gives it. -/
theorem receive_eq_ok_some_iff {origin : Bytes} {e : Envelope} {payload : Bytes}
    {own : Material} {r : Received} :
    receive origin e payload own = .ok (some r) ↔
      ∃ key found, own.asSecretKey = .ok key ∧ e.openWith (.secretKey key) = .ok (some found) ∧
        readOpened origin e payload key found = .ok r := by
  simp only [receive, Attempt.bind_eq_ok_iff, Attempt.mapError_eq_ok_iff]
  constructor
  · rintro ⟨key, hkey, found, hfound, h⟩
    cases found with
    | none => cases h
    | some found =>
        obtain ⟨r', hr, hsome⟩ := Attempt.map_eq_ok_iff.mp h
        cases hsome
        exact ⟨key, found, hkey, hfound, hr⟩
  · rintro ⟨key, found, hkey, hfound, hr⟩
    exact ⟨key, hkey, some found, hfound, Attempt.map_eq_ok_iff.mpr ⟨r, hr, rfl⟩⟩

/-- A reading fails with the own key, with the search for the channel, or with what the channel
holds. -/
theorem receive_eq_error_iff {origin : Bytes} {e : Envelope} {payload : Bytes}
    {own : Material} {fault : ReadFault} :
    receive origin e payload own = .error fault ↔
      (∃ refusal, own.asSecretKey = .error refusal ∧ .box refusal = fault) ∨
      ∃ key, own.asSecretKey = .ok key ∧
        ((∃ refusal, e.openWith (.secretKey key) = .error refusal ∧ .box refusal = fault) ∨
          ∃ found, e.openWith (.secretKey key) = .ok (some found) ∧
            readOpened origin e payload key found = .error fault) := by
  simp only [receive, Attempt.bind_eq_error_iff, Attempt.mapError_eq_error_iff,
    Attempt.mapError_eq_ok_iff]
  refine or_congr Iff.rfl (exists_congr fun key => and_congr Iff.rfl (or_congr Iff.rfl ?_))
  constructor
  · rintro ⟨found, hfound, h⟩
    cases found with
    | none => cases h
    | some found => exact ⟨found, hfound, Attempt.map_eq_error_iff.mp h⟩
  · rintro ⟨found, hfound, h⟩
    exact ⟨some found, hfound, Attempt.map_eq_error_iff.mpr h⟩

end Correspondence
end SealedPost
