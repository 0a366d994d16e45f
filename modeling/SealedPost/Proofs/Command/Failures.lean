import SealedPost.Command.Outcome
import SealedPost.Proofs.Correspondence.Failures
import SealedPost.Proofs.Json.Nesting
import SealedPost.Proofs.Ledger.Sending

/-!
# How the command that reads fails

A file that is no parcel, a key that is none and a message for somebody else are all reported,
with the same exit status. What is not foreseen is exactly what is not foreseen of the reading
itself, which envelopes of the right shape do not prevent, and a document that is nested too deep
for the room that the reader has.
-/

namespace SealedPost

namespace Command

/-- A parcel is read under the own key, which serves to choose the payload. -/
theorem readParcel_fails_undeclared_iff {o : ReadOptions} {p : Parcel} {failure : Failure} :
    (readParcel o p = .error failure ∧ failure.isDeclared = false) ↔
      ∃ first rest fault, ∃ key : SecretKey, p.messages = first :: rest ∧
        o.secretKey = key.bytes ∧ failure = .read fault ∧
        Correspondence.Unforeseen p.envelope (Parcel.payloadFor key.publicKey.bytes first rest) key
          fault := by
  have hready (key : SecretKey) : (Material.secretKey key).asSecretKey = .ok key := rfl
  constructor
  · rintro ⟨h, hundeclared⟩
    unfold readParcel at h
    split at h
    · cases h
      cases hundeclared
    · rename_i first rest hmessages
      rcases Attempt.bind_eq_error_iff.mp h with hkey | ⟨key, hkey, h⟩
      · obtain ⟨refusal, hrefusal, rfl⟩ := Attempt.mapError_eq_error_iff.mp hkey
        have hdeclared := Material.isDeclared_of_asSecretKey hrefusal
        exact absurd (hdeclared.symm.trans hundeclared) Bool.noConfusion
      · have hkey := Material.asSecretKey_eq_ok_iff.mp (Attempt.mapError_eq_ok_iff.mp hkey)
        dsimp only at h
        split at h
        · rename_i fault hread
          cases h
          obtain ⟨key', hkey', hunforeseen⟩ :=
            Correspondence.receive_fails_undeclared_iff.mp ⟨hread, hundeclared⟩
          cases (hready key).symm.trans hkey'
          exact ⟨first, rest, fault, key, hmessages, hkey, rfl, hunforeseen⟩
        · cases h
          cases hundeclared
        · cases h
  · rintro ⟨first, rest, fault, key, hmessages, hkey, rfl, hunforeseen⟩
    have hfails : Correspondence.receive o.origin p.envelope
        (Parcel.payloadFor key.publicKey.bytes first rest) (.secretKey key) = .error fault ∧
          fault.isDeclared = false :=
      Correspondence.receive_fails_undeclared_iff.mpr ⟨key, hready key, hunforeseen⟩
    obtain ⟨hread, hundeclared⟩ := hfails
    have hown : ((Material.bytes o.secretKey).asSecretKey.mapError
        fun refusal => Failure.read (.box refusal)) = .ok key :=
      Attempt.mapError_eq_ok_iff.mpr (Material.asSecretKey_eq_ok_iff.mpr hkey)
    refine ⟨?_, hundeclared⟩
    simp only [readParcel, hmessages, hown, Attempt.ok_bind, hread]

/-- Whatever the reason for which the command that reads fails, its exit status is the same. -/
theorem status_of_read {room : Parcel.Room} {o : ReadOptions} {content : Bytes}
    {failure : Failure} (h : read room o content = .error failure) : failure.status = 1 := by
  unfold read at h
  split at h
  · cases h
    split <;> rfl
  · unfold readParcel at h
    split at h
    · cases h
      rfl
    · rcases Attempt.bind_eq_error_iff.mp h with hkey | ⟨key, -, h⟩
      · obtain ⟨refusal, -, rfl⟩ := Attempt.mapError_eq_error_iff.mp hkey
        rfl
      · dsimp only at h
        split at h <;> cases h <;> rfl

namespace Parcel

theorem isReported_of_blob {v : Json} {fault : ParcelFault} (h : blob v = .error fault) :
    fault.isReported = true := by
  unfold blob at h
  split at h
  · obtain ⟨refusal, -, rfl⟩ := Attempt.mapError_eq_error_iff.mp h
    rfl
  · cases h
    rfl

theorem isReported_of_pair {v : Json} {fault : ParcelFault} (h : pair v = .error fault) :
    fault.isReported = true := by
  unfold pair at h
  split at h
  · cases h
    rfl
  · rcases Attempt.bind_eq_error_iff.mp h with hkey | ⟨key, -, h⟩
    · exact isReported_of_blob hkey
    · rcases Attempt.bind_eq_error_iff.mp h with hpayload | ⟨payload, -, h⟩
      · exact isReported_of_blob hpayload
      · cases h
  · cases h
    rfl
  · cases h
    rfl

theorem isReported_of_member {name : Text} {v : Json} {fault : ParcelFault}
    (h : member name v = .error fault) : fault.isReported = true := by
  unfold member at h
  split at h
  · split at h <;> cases h
    rfl
  · cases h
    rfl

theorem isReported_of_pairs {v : Json} {fault : ParcelFault} (h : pairs v = .error fault) :
    fault.isReported = true := by
  unfold pairs at h
  split at h
  · cases h
    rfl
  · obtain ⟨part, -, hpart⟩ := Attempt.exists_of_mapM_eq_error h
    exact isReported_of_pair hpart

/-- Whatever makes the document of a file no parcel is reported. -/
theorem isReported_of_ofJson {v : Json} {fault : ParcelFault} (h : ofJson v = .error fault) :
    fault.isReported = true := by
  unfold ofJson at h
  rcases Attempt.bind_eq_error_iff.mp h with hmember | ⟨envelope, -, h⟩
  · exact isReported_of_member hmember
  rcases Attempt.bind_eq_error_iff.mp h with henvelope | ⟨e, -, h⟩
  · obtain ⟨violations, -, rfl⟩ := Attempt.mapError_eq_error_iff.mp henvelope
    rfl
  rcases Attempt.bind_eq_error_iff.mp h with hmember | ⟨messages, -, h⟩
  · exact isReported_of_member hmember
  rcases Attempt.bind_eq_error_iff.mp h with hpairs | ⟨pairs, -, h⟩
  · exact isReported_of_pairs hpairs
  · cases h

/-- What is not reported of a file that holds no parcel is exactly that its document is nested too
deep. -/
theorem ofBytes_fails_unreported_iff {room : Room} {content : Bytes} {fault : ParcelFault} :
    (ofBytes room content = .error fault ∧ fault.isReported = false) ↔
      ∃ t, Encoding.decodeDocument content = .ok t ∧ Json.Exhausts room.toRoom t ∧
        fault = .unreadable (.unreadable t .tooDeep) := by
  constructor
  · rintro ⟨h, hsilent⟩
    rcases Attempt.bind_eq_error_iff.mp h with hread | ⟨v, -, hjson⟩
    · obtain ⟨refusal, hrefusal, rfl⟩ := Attempt.mapError_eq_error_iff.mp hread
      unfold ParcelFault.isReported at hsilent
      split at hsilent
      · next t heq =>
          cases heq
          obtain ⟨hdecode, hdeep⟩ := Json.readDocumentIn_eq_tooDeep_iff.mp hrefusal
          exact ⟨t, hdecode, hdeep, rfl⟩
      · cases hsilent
    · exact absurd ((isReported_of_ofJson hjson).symm.trans hsilent) Bool.noConfusion
  · rintro ⟨t, hdecode, hdeep, rfl⟩
    have hread := Json.readDocumentIn_eq_tooDeep_iff.mpr ⟨hdecode, hdeep⟩
    refine ⟨Attempt.bind_eq_error_iff.mpr (.inl ?_), rfl⟩
    exact Attempt.mapError_eq_error_iff.mpr ⟨_, hread, rfl⟩

end Parcel

/-- The command that reads fails unforeseen exactly if the document of its file is nested too deep,
or the file is a parcel with a payload and the reading fails so, of the envelope and the payload
that is chosen. -/
theorem read_fails_undeclared_iff {room : Parcel.Room} {o : ReadOptions} {content : Bytes}
    {failure : Failure} :
    (read room o content = .error failure ∧ failure.isDeclared = false) ↔
      (failure = .tooDeep ∧
        ∃ t, Encoding.decodeDocument content = .ok t ∧ Json.Exhausts room.toRoom t) ∨
      ∃ p, Parcel.ofBytes room content = .ok p ∧ ∃ first rest fault, ∃ key : SecretKey,
        p.messages = first :: rest ∧ o.secretKey = key.bytes ∧ failure = .read fault ∧
        Correspondence.Unforeseen p.envelope (Parcel.payloadFor key.publicKey.bytes first rest) key
          fault := by
  constructor
  · rintro ⟨h, hundeclared⟩
    unfold read at h
    split at h
    · next fault hparcel =>
        cases hreported : fault.isReported with
        | true =>
            rw [hreported] at h
            cases h
            cases hundeclared
        | false =>
            obtain ⟨t, hdecode, hdeep, -⟩ :=
              Parcel.ofBytes_fails_unreported_iff.mp ⟨hparcel, hreported⟩
            rw [hreported] at h
            cases h
            exact .inl ⟨rfl, t, hdecode, hdeep⟩
    · next p hparcel =>
        exact .inr ⟨p, hparcel, readParcel_fails_undeclared_iff.mp ⟨h, hundeclared⟩⟩
  · rintro (⟨rfl, t, hdecode, hdeep⟩ | ⟨p, hparcel, hreading⟩)
    · obtain ⟨hparcel, -⟩ := Parcel.ofBytes_fails_unreported_iff.mpr ⟨t, hdecode, hdeep, rfl⟩
      rw [read, hparcel]
      exact ⟨rfl, rfl⟩
    · rw [read, hparcel]
      exact readParcel_fails_undeclared_iff.mpr hreading

/-- Reading fails unforeseen, as a function and as a command, exactly in the ways listed: the
agreement with the relay key is refused, the opened channel lists no parties, or the agreement
with a peer is refused to which the search for the body comes; and, of the command, the document
is nested too deep for the room that there is. However much it is, some document is. -/
theorem reading_fails_unforeseen_iff (origin : Bytes) (e : Envelope) (payload : Bytes)
    (own : Material) (fault : ReadFault) (room : Parcel.Room) (o : ReadOptions) (content : Bytes)
    (failure : Failure) :
    ((Correspondence.receive origin e payload own = .error fault ∧ fault.isDeclared = false) ↔
      ∃ key, own.asSecretKey = .ok key ∧ Correspondence.Unforeseen e payload key fault) ∧
    ((read room o content = .error failure ∧ failure.isDeclared = false) ↔
      (failure = .tooDeep ∧
        ∃ t, Encoding.decodeDocument content = .ok t ∧ Json.Exhausts room.toRoom t) ∨
      ∃ p, Parcel.ofBytes room content = .ok p ∧ ∃ first rest refusal, ∃ key : SecretKey,
        p.messages = first :: rest ∧ o.secretKey = key.bytes ∧ failure = .read refusal ∧
        Correspondence.Unforeseen p.envelope
          (Parcel.payloadFor key.publicKey.bytes first rest) key refusal) ∧
    (∃ deep, read room o deep = .error .tooDeep) ∧
    (read room o content = .error failure → failure.status = 1) := by
  obtain ⟨deep, t, hdecode, hexhausts⟩ := Json.exists_document_exhausts room.toRoom
  have hdeep : read room o deep = .error .tooDeep ∧ Failure.tooDeep.isDeclared = false :=
    read_fails_undeclared_iff.mpr (.inl ⟨rfl, t, hdecode, hexhausts⟩)
  exact ⟨Correspondence.receive_fails_undeclared_iff, read_fails_undeclared_iff, ⟨deep, hdeep.1⟩,
    status_of_read⟩

/-- An envelope of the right shape whose relay key agrees with no key. -/
def barrenEnvelope : Envelope where
  publicNonce := List.replicate 24 0
  relayKey := List.replicate 32 0
  commitment := List.replicate 32 0
  channels := [⟨[0], [[0]]⟩]

/-- So the shape that is asked of an envelope does not make its readings fail as foreseen. -/
theorem not_only_declared_failures :
    ¬ ∀ (origin : Bytes) (e : Envelope) (payload : Bytes) (own : Material) (fault : ReadFault),
      e.WellShaped → Correspondence.receive origin e payload own = .error fault →
      fault.isDeclared = true := by
  intro h
  let key : SecretKey := ⟨List.replicate 32 11, List.length_replicate⟩
  have hshape : barrenEnvelope.WellShaped := by
    refine Envelope.defect?_eq_none_iff.mp ?_
    decide
  have hrelay : barrenEnvelope.RelayRefused key := by
    refine ⟨List.cons_ne_nil _ _, ⟨⟨_, List.length_replicate⟩, rfl⟩,
      ⟨_, List.length_replicate⟩, rfl, ?_⟩
    decide +kernel
  have hready : (Material.secretKey key).asSecretKey = .ok key := rfl
  have hfails : Correspondence.receive [4] barrenEnvelope [] (.secretKey key) =
      .error (.box .agreementRefused) ∧ (ReadFault.box .agreementRefused).isDeclared = false :=
    Correspondence.receive_fails_undeclared_iff.mpr ⟨key, hready, .relay hrelay⟩
  have hdeclared := h _ _ _ _ _ hshape hfails.1
  exact absurd (hdeclared.symm.trans hfails.2) Bool.noConfusion

end Command
end SealedPost
