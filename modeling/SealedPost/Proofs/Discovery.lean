import SealedPost.Envelope
import SealedPost.Proofs.Box

/-!
# A participant finds their channel

Channels carry no names, so a participant tries each of them in one box: a channel in a
box with the same key opens to the secret nonce and all parties, and a channel in another
box is passed over. The first one that opens thus tells what every one of them would.
-/

namespace SealedPost

namespace Channel

/-- The channel that a discovery opens from, sealed in a box. -/
def sealedIn (box : Box) (publicNonce : Nonce) (d : Discovery) : Channel :=
  ⟨box.encrypt publicNonce d.secretNonce.bytes, d.participants.map (box.encrypt d.secretNonce)⟩

/-- A channel opens to a discovery exactly if it is what the box makes of the discovery. -/
theorem scan_eq_ok_some_iff {box : Box} {publicNonce : Nonce} {c : Channel} {d : Discovery} :
    scan box publicNonce c = .ok (some d) ↔ c = sealedIn box publicNonce d := by
  have hparticipants (nonce : Nonce) (sealedParticipants participants : List Bytes) :
      sealedParticipants.mapM (box.decrypt nonce) = .ok participants ↔
        sealedParticipants = participants.map (box.encrypt nonce) := by
    simp only [Attempt.mapM_eq_ok_iff, Box.decrypt_eq_ok_iff]
    rw [← List.forall₂_map_right_iff, List.forall₂_eq_eq_eq]
  obtain ⟨sealedNonce, sealedParticipants⟩ := c
  obtain ⟨secretNonce, participants⟩ := d
  constructor
  · intro h
    unfold scan at h
    split at h
    · cases h
    · rename_i bytes hbytes
      obtain ⟨nonce, hnonce, h⟩ := Attempt.bind_eq_ok_iff.mp h
      obtain ⟨found, hfound, h⟩ := Attempt.bind_eq_ok_iff.mp h
      cases Attempt.pure_eq_ok_iff.mp h
      cases Material.nonce_eq_ok_iff.mp hnonce
      cases Box.decrypt?_eq_some_iff.mp hbytes
      cases (hparticipants ..).mp hfound
      rfl
  · intro h
    cases h
    have hnonce : box.decrypt? publicNonce (box.encrypt publicNonce secretNonce.bytes) =
        some secretNonce.bytes :=
      Box.decrypt?_eq_some_iff.mpr rfl
    simp only [scan, hnonce, Material.nonce_bytes,
      (hparticipants secretNonce _ participants).mpr rfl, Attempt.ok_bind]
    rfl

/-- A channel opens in every box with the key that it was planned in. -/
theorem scan_plan {box other : Box} (h : box.key = other.key) (publicNonce secretNonce : Nonce)
    (parties : List PublicKey) :
    scan box publicNonce (plan other publicNonce secretNonce parties).channel =
      .ok (some ⟨secretNonce, parties.map PublicKey.bytes⟩) := by
  refine scan_eq_ok_some_iff.mpr ?_
  rw [sealedIn, Box.encrypt_of_key_eq h, ChannelPlan.channel, plan, List.map_map, List.map_map]
  rfl

/-- A channel whose nonce does not open is someone else's. -/
theorem scan_of_decrypt?_eq_none {box : Box} {publicNonce : Nonce} {c : Channel}
    (h : box.decrypt? publicNonce c.sealedNonce = none) : scan box publicNonce c = .ok none := by
  rw [scan, h]

end Channel

namespace Envelope

/-- Whoever has the box opens an envelope whose one channel is sealed in it, whoever the channel
names. -/
theorem openWith_of_sealedIn {e : Envelope} {reader : Material} {own : SecretKey}
    {peer : PublicKey} {box : Box} (hreader : reader.asSecretKey = .ok own)
    (hbox : Box.agree peer own = .ok box) {nonce : Nonce} {d : Discovery}
    (hnonce : e.publicNonce = nonce.bytes) (hrelay : e.relayKey = peer.bytes)
    (hchannels : e.channels = [Channel.sealedIn box nonce d]) :
    e.openWith reader = .ok (some d) := by
  have hscan : scanChannel nonce peer own (Channel.sealedIn box nonce d) = .ok (some d) := by
    rw [scanChannel, hbox, Attempt.ok_bind]
    exact Channel.scan_eq_ok_some_iff.mpr rfl
  have hscanner : e.scanner reader = .ok (scanChannel nonce peer own) := by
    simp only [scanner, hnonce, hrelay, Material.nonce_bytes, Material.asPublicKey_bytes, hreader,
      Attempt.ok_bind]
    rfl
  rw [openWith, hscanner, Attempt.ok_bind, hchannels, firstOpen, hscan]

/-- The first channel that opens gives the answer of all that open, if they agree. -/
theorem firstOpen_eq_ok_some {scan : Channel → Except BoxFault (Option Discovery)}
    {channels : List Channel} {d : Discovery}
    (h : ∀ c ∈ channels, scan c = .ok none ∨ scan c = .ok (some d))
    (hopen : ∃ c ∈ channels, scan c = .ok (some d)) : firstOpen scan channels = .ok (some d) := by
  induction channels with
  | nil =>
      obtain ⟨c, hc, -⟩ := hopen
      cases hc
  | cons c rest ih =>
      obtain ⟨hfirst, hrest⟩ := List.forall_mem_cons.mp h
      rcases hfirst with hnone | hsome
      · rcases (List.exists_mem_cons_iff _ _ _).mp hopen with hscan | hlater
        · rw [hnone] at hscan
          cases hscan
        · simp only [firstOpen, hnone]
          exact ih hrest hlater
      · simp only [firstOpen, hsome]

/-- The plans for the channels stand in the order of the parties, each in the box between
the relay key and its party. -/
theorem planChannels_eq_ok_iff {publicNonce secretNonce : Nonce} {relay : SecretKey}
    {parties : List PublicKey} {plans : List ChannelPlan} :
    planChannels publicNonce secretNonce relay parties = .ok plans ↔
      List.Forall₂ (fun party plan => ∃ box, Box.agree party relay = .ok box ∧
        plan = Channel.plan box publicNonce secretNonce parties) parties plans := by
  simp only [planChannels, Attempt.mapM_eq_ok_iff, Attempt.bind_eq_ok_iff,
    Attempt.pure_eq_ok_iff, @eq_comm ChannelPlan]

/-- A party finds the secret nonce and all parties, if no channel of another party opens in
the party's box. -/
theorem firstOpen_planChannels {publicNonce secretNonce : Nonce} {relay own : SecretKey}
    {parties : List PublicKey} {plans : List ChannelPlan}
    (hplans : planChannels publicNonce secretNonce relay parties = .ok plans)
    (hown : own.publicKey ∈ parties) (hsym : relay.Symmetric own)
    (hother : ∀ box, Box.agree relay.publicKey own = .ok box → ∀ p ∈ plans,
      box.key ≠ p.nonce.key → box.decrypt? p.nonce.nonce p.nonce.ciphertext = none) :
    firstOpen (scanChannel publicNonce relay.publicKey own) (plans.map ChannelPlan.channel) =
      .ok (some ⟨secretNonce, parties.map PublicKey.bytes⟩) := by
  have hforall := planChannels_eq_ok_iff.mp hplans
  obtain ⟨plan, hplan, other, hagree, rfl⟩ := Attempt.exists_of_mem hforall.flip hown
  obtain ⟨box, hbox, hkey⟩ := Box.agree_of_symmetric hsym hagree
  have hscan (c : Channel) :
      scanChannel publicNonce relay.publicKey own c = c.scan box publicNonce := by
    rw [scanChannel, hbox, Attempt.ok_bind]
  refine firstOpen_eq_ok_some ?_ ?_
  · intro c hc
    obtain ⟨p, hp, rfl⟩ := List.mem_map.mp hc
    obtain ⟨party, -, boxOfParty, -, rfl⟩ := Attempt.exists_of_mem hforall hp
    rw [hscan]
    by_cases hsame : box.key = boxOfParty.key
    · exact .inr (Channel.scan_plan hsame ..)
    · exact .inl (Channel.scan_of_decrypt?_eq_none (hother box hbox _ hp hsame))
  · refine ⟨_, List.mem_map_of_mem hplan, ?_⟩
    rw [hscan]
    exact Channel.scan_plan hkey ..

end Envelope
end SealedPost
