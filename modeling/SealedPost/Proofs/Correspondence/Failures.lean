import SealedPost.Proofs.Correspondence.Reading
import SealedPost.Proofs.Discovery

/-!
# How a reading fails

Most failures of a reading are foreseen. Two are not: a channel may list no parties, and a key
agreement may be refused, with the relay key before any channel is opened or with a peer while
the body is searched for. These are all the ways, and each occurs exactly as described here.
-/

namespace SealedPost

open Crypto

section Declared

/-- A refusal to take material as a nonce tells what the material was. -/
theorem Material.eq_invalidNonce {m : Material} {fault : BoxFault} (h : m.nonce = .error fault) :
    fault = .invalidNonce m := by
  unfold nonce at h
  split at h <;> cases h
  rfl

/-- A refusal to take material as a public key tells what the material was. -/
theorem Material.eq_invalidPublicKey {m : Material} {fault : BoxFault}
    (h : m.asPublicKey = .error fault) : fault = .invalidPublicKey m := by
  unfold asPublicKey at h
  split at h
  · cases h
  · split at h <;> cases h
    rfl

/-- A refusal to take material as a secret key does not tell what the material was. -/
theorem Material.eq_invalidSecretKey {m : Material} {fault : BoxFault}
    (h : m.asSecretKey = .error fault) : fault = .invalidSecretKey := by
  unfold asSecretKey at h
  split at h
  · cases h
  · split at h <;> cases h
    rfl

/-- Material that is no nonce is a foreseen failure. -/
theorem Material.isDeclared_of_nonce {m : Material} {fault : BoxFault}
    (h : m.nonce = .error fault) : fault.isDeclared = true := by
  rw [eq_invalidNonce h]
  rfl

/-- Material that is no public key is a foreseen failure. -/
theorem Material.isDeclared_of_asPublicKey {m : Material} {fault : BoxFault}
    (h : m.asPublicKey = .error fault) : fault.isDeclared = true := by
  rw [eq_invalidPublicKey h]
  rfl

/-- Material that is no secret key is a foreseen failure. -/
theorem Material.isDeclared_of_asSecretKey {m : Material} {fault : BoxFault}
    (h : m.asSecretKey = .error fault) : fault.isDeclared = true := by
  rw [eq_invalidSecretKey h]
  rfl

/-- There is no box exactly if the agreement is refused. -/
theorem Box.agree_eq_error_iff {peer : PublicKey} {own : SecretKey} {fault : BoxFault} :
    agree peer own = .error fault ↔
      fault = .agreementRefused ∧ X25519.agree? own.bytes peer.bytes = none := by
  unfold agree
  cases X25519.agree? own.bytes peer.bytes <;> simp [eq_comm]

/-- In a box a channel fails in foreseen ways only. -/
theorem Channel.isDeclared_of_scan {box : Box} {publicNonce : Nonce} {c : Channel}
    {fault : BoxFault} (h : c.scan box publicNonce = .error fault) : fault.isDeclared = true := by
  unfold scan at h
  split at h
  · cases h
  · rcases Attempt.bind_eq_error_iff.mp h with hnonce | ⟨secretNonce, -, h⟩
    · exact Material.isDeclared_of_nonce hnonce
    · rcases Attempt.bind_eq_error_iff.mp h with hparticipants | ⟨participants, -, hpure⟩
      · obtain ⟨p, -, hp⟩ := Attempt.exists_of_mapM_eq_error hparticipants
        rw [Box.eq_decryptionFailed_of_decrypt hp]
        rfl
      · cases hpure

end Declared

namespace Envelope

/-- The search for a channel fails with the first channel that fails, if those before it are
passed over. -/
theorem firstOpen_eq_error_iff {scan : Channel → Except BoxFault (Option Discovery)}
    {channels : List Channel} {fault : BoxFault} :
    firstOpen scan channels = .error fault ↔ ∃ before c after, channels = before ++ c :: after ∧
      (∀ b ∈ before, scan b = .ok none) ∧ scan c = .error fault := by
  constructor
  · intro h
    induction channels with
    | nil => cases h
    | cons c rest ih =>
        rw [firstOpen] at h
        split at h
        · rename_i fault' hscan
          cases h
          exact ⟨[], c, rest, rfl, List.forall_mem_nil _, hscan⟩
        · cases h
        · rename_i hpassed
          obtain ⟨before, c', after, rfl, hbefore, hc'⟩ := ih h
          exact ⟨c :: before, c', after, rfl, List.forall_mem_cons.mpr ⟨hpassed, hbefore⟩, hc'⟩
  · rintro ⟨before, c, after, rfl, hbefore, hc⟩
    induction before with
    | nil => rw [List.nil_append, firstOpen, hc]
    | cons b before ih =>
        obtain ⟨hb, hrest⟩ := List.forall_mem_cons.mp hbefore
        rw [List.cons_append, firstOpen, hb]
        exact ih hrest

/-- The key agreement between a reader and the relay key of an envelope is refused, and there
is a channel to try it for. -/
structure RelayRefused (e : Envelope) (own : SecretKey) : Prop where
  channels : e.channels ≠ []
  nonce : ∃ nonce : Nonce, e.publicNonce = nonce.bytes
  relay : ∃ relay : PublicKey, e.relayKey = relay.bytes ∧
    X25519.agree? own.bytes relay.bytes = none

/-- Opening an envelope fails unforeseen exactly if the agreement with the relay key is
refused. -/
theorem openWith_fails_undeclared_iff {e : Envelope} {own : SecretKey} {fault : BoxFault} :
    (e.openWith (.secretKey own) = .error fault ∧ fault.isDeclared = false) ↔
      fault = .agreementRefused ∧ e.RelayRefused own := by
  have hown : (Material.secretKey own).asSecretKey = .ok own := rfl
  constructor
  · rintro ⟨h, hundeclared⟩
    have hnever (hdeclared : fault.isDeclared = true) :
        fault = .agreementRefused ∧ e.RelayRefused own :=
      absurd (hdeclared.symm.trans hundeclared) Bool.noConfusion
    rw [openWith, scanner, hown] at h
    rcases Attempt.bind_eq_error_iff.mp h with hscanner | ⟨scan, hscanner, hfirst⟩
    · rcases Attempt.bind_eq_error_iff.mp hscanner with hnonce | ⟨nonce, -, hscanner⟩
      · exact hnever (Material.isDeclared_of_nonce hnonce)
      · rcases Attempt.bind_eq_error_iff.mp hscanner with hrelay | ⟨relay, -, hscanner⟩
        · exact hnever (Material.isDeclared_of_asPublicKey hrelay)
        · cases hscanner
    · obtain ⟨nonce, hnonce, hscanner⟩ := Attempt.bind_eq_ok_iff.mp hscanner
      obtain ⟨relay, hrelay, hscanner⟩ := Attempt.bind_eq_ok_iff.mp hscanner
      obtain rfl := Attempt.pure_eq_ok_iff.mp hscanner
      obtain ⟨before, c, after, hchannels, -, hscan⟩ := firstOpen_eq_error_iff.mp hfirst
      rcases Attempt.bind_eq_error_iff.mp hscan with hrefused | ⟨box, -, hscan⟩
      · obtain ⟨hfault, hagree⟩ := Box.agree_eq_error_iff.mp hrefused
        have hne : e.channels ≠ [] := by simp [hchannels]
        exact ⟨hfault, hne, ⟨nonce, Material.nonce_eq_ok_iff.mp hnonce⟩,
          relay, Material.asPublicKey_eq_ok_iff.mp hrelay, hagree⟩
      · exact hnever (Channel.isDeclared_of_scan hscan)
  · rintro ⟨rfl, hchannels, ⟨nonce, hnonce⟩, relay, hrelay, hagree⟩
    refine ⟨?_, rfl⟩
    obtain ⟨c, rest, hcons⟩ := List.exists_cons_of_ne_nil hchannels
    have hscan : scanChannel nonce relay own c = .error .agreementRefused :=
      Attempt.bind_eq_error_iff.mpr (.inl (Box.agree_eq_error_iff.mpr ⟨rfl, hagree⟩))
    have hscanner : e.scanner (.secretKey own) = .ok (scanChannel nonce relay own) := by
      simp only [scanner, hnonce, hrelay, hown, Material.nonce_bytes,
        Material.asPublicKey_bytes, Attempt.ok_bind]
      rfl
    rw [openWith, hscanner, Attempt.ok_bind, hcons, firstOpen, hscan]

end Envelope

namespace Correspondence

/-- A search for a body fails unforeseen exactly at the first peer that fails so, if all peers
before it fail in foreseen ways. -/
theorem searchBody_fails_undeclared_iff {attempt : Bytes → Except BoxFault Message}
    {last : BoxFault} {peers : List Bytes} {fault : BoxFault} (hlast : last.isDeclared = true) :
    (searchBody attempt last peers = .error fault ∧ fault.isDeclared = false) ↔
      ∃ before peer after, peers = before ++ peer :: after ∧
        (∀ p ∈ before, ∃ passed, attempt p = .error passed ∧ passed.isDeclared = true) ∧
        attempt peer = .error fault ∧ fault.isDeclared = false := by
  constructor
  · rintro ⟨h, hundeclared⟩
    induction peers generalizing last with
    | nil =>
        cases h
        exact absurd (hlast.symm.trans hundeclared) Bool.noConfusion
    | cons p rest ih =>
        rw [searchBody] at h
        split at h
        · cases h
        · rename_i passed hattempt
          split at h
          · rename_i hdeclared
            obtain ⟨before, peer, after, rfl, hbefore, hpeer⟩ := ih hdeclared h
            refine ⟨p :: before, peer, after, rfl, ?_, hpeer⟩
            exact List.forall_mem_cons.mpr ⟨⟨passed, hattempt, hdeclared⟩, hbefore⟩
          · cases h
            exact ⟨[], p, rest, rfl, List.forall_mem_nil _, hattempt, hundeclared⟩
  · rintro ⟨before, peer, after, rfl, hbefore, hpeer, hundeclared⟩
    refine ⟨?_, hundeclared⟩
    induction before generalizing last with
    | nil =>
        rw [List.nil_append, searchBody, hpeer]
        simp [hundeclared]
    | cons p before ih =>
        obtain ⟨⟨passed, hattempt, hdeclared⟩, hrest⟩ := List.forall_mem_cons.mp hbefore
        rw [List.cons_append, searchBody, hattempt]
        simp only [hdeclared, if_true]
        exact ih hdeclared hrest

/-- An attempt with a peer fails unforeseen exactly if the peer is a key with which the
agreement is refused. -/
theorem decryptBody_fails_undeclared_iff {encrypted : Message} {nonce : Nonce} {own : SecretKey}
    {p : Bytes} {fault : BoxFault} :
    (decryptBody encrypted nonce own p = .error fault ∧ fault.isDeclared = false) ↔
      fault = .agreementRefused ∧ ∃ peer : PublicKey, p = peer.bytes ∧
        X25519.agree? own.bytes peer.bytes = none := by
  constructor
  · rintro ⟨h, hundeclared⟩
    rcases Attempt.bind_eq_error_iff.mp h with hkey | ⟨peer, hkey, h⟩
    · have hdeclared := Material.isDeclared_of_asPublicKey hkey
      exact absurd (hdeclared.symm.trans hundeclared) Bool.noConfusion
    · rcases Attempt.bind_eq_error_iff.mp h with hrefused | ⟨box, -, h⟩
      · obtain ⟨hfault, hagree⟩ := Box.agree_eq_error_iff.mp hrefused
        exact ⟨hfault, peer, Material.asPublicKey_eq_ok_iff.mp hkey, hagree⟩
      · rw [Box.eq_decryptionFailed_of_decryptMessage h] at hundeclared
        cases hundeclared
  · rintro ⟨rfl, peer, rfl, hagree⟩
    have hrefused := Box.agree_eq_error_iff.mpr ⟨rfl, hagree⟩
    refine ⟨?_, rfl⟩
    rw [decryptBody, Material.asPublicKey_bytes, Attempt.ok_bind, hrefused]
    rfl

/-- The ways in which a reading fails that are not foreseen. -/
inductive Unforeseen (e : Envelope) (payload : Bytes) (own : SecretKey) : ReadFault → Prop
  | relay (h : e.RelayRefused own) : Unforeseen e payload own (.box .agreementRefused)
  | parties {nonce : Nonce} (hopen : e.openWith (.secretKey own) = .ok (some ⟨nonce, []⟩)) :
      Unforeseen e payload own .noParticipants
  | peer {nonce : Nonce} {sender : Bytes} {recipients before after : List Bytes}
      {encrypted : Message} {key : PublicKey}
      (hopen : e.openWith (.secretKey own) = .ok (some ⟨nonce, sender :: recipients⟩))
      (hpayload : Message.ofBytes payload = .ok encrypted)
      (hpeers : peers own.publicKey sender recipients = before ++ key.bytes :: after)
      (hbefore : ∀ p ∈ before, ∃ passed, decryptBody encrypted nonce own p = .error passed ∧
        passed.isDeclared = true)
      (hrefused : X25519.agree? own.bytes key.bytes = none) :
      Unforeseen e payload own (.box .agreementRefused)

/-- The message of an opened channel fails unforeseen exactly if the channel lists no parties or
the search for the body comes to a peer with which the agreement is refused. -/
theorem readOpened_fails_undeclared_iff {origin : Bytes} {e : Envelope} {payload : Bytes}
    {own : SecretKey} {found : Discovery} {fault : ReadFault} :
    (readOpened origin e payload own found = .error fault ∧ fault.isDeclared = false) ↔
      fault = .noParticipants ∧ found.participants = [] ∨
      fault = .box .agreementRefused ∧ ∃ sender recipients before after encrypted,
        ∃ key : PublicKey, found.participants = sender :: recipients ∧
          Message.ofBytes payload = .ok encrypted ∧
          peers own.publicKey sender recipients = before ++ key.bytes :: after ∧
          (∀ p ∈ before, ∃ passed, decryptBody encrypted found.secretNonce own p =
            .error passed ∧ passed.isDeclared = true) ∧
          X25519.agree? own.bytes key.bytes = none := by
  have hlast : (BoxFault.decryptionFailed own.publicKey.bytes).isDeclared = true := rfl
  constructor
  · rintro ⟨h, hundeclared⟩
    unfold readOpened at h
    split at h
    · rename_i hparts
      cases h
      exact .inl ⟨rfl, hparts⟩
    · rename_i sender recipients hparts
      dsimp only at h
      split at h
      · cases h
        cases hundeclared
      · split at h
        · cases h
          cases hundeclared
        · rename_i encrypted hpayload
          split at h
          · rename_i boxFault hbody
            cases h
            obtain ⟨before, p, after, hpeers, hbefore, hattempt⟩ :=
              (searchBody_fails_undeclared_iff hlast).mp ⟨hbody, hundeclared⟩
            obtain ⟨rfl, key, rfl, hagree⟩ := decryptBody_fails_undeclared_iff.mp hattempt
            exact .inr ⟨rfl, sender, recipients, before, after, encrypted, key, hparts, hpayload,
              hpeers, hbefore, hagree⟩
          · split at h
            · cases h
            · cases h
              cases hundeclared
  · rintro (⟨rfl, hparts⟩ |
      ⟨rfl, sender, recipients, before, after, encrypted, key, hparts, hpayload, hpeers, hbefore,
        hagree⟩)
    · exact ⟨by simp only [readOpened, hparts], rfl⟩
    · refine ⟨?_, rfl⟩
      have hattempt : decryptBody encrypted found.secretNonce own key.bytes =
          .error .agreementRefused :=
        (decryptBody_fails_undeclared_iff.mpr ⟨rfl, key, rfl, hagree⟩).1
      have hbody := ((searchBody_fails_undeclared_iff hlast).mpr
        ⟨before, key.bytes, after, hpeers, hbefore, hattempt, rfl⟩).1
      have hsome : (peers own.publicKey sender recipients).isEmpty = false := by
        rw [hpeers]
        exact List.isEmpty_eq_false_iff.mpr (List.append_ne_nil_of_right_ne_nil _
          (List.cons_ne_nil _ _))
      simp [readOpened, hparts, hsome, hpayload, hbody]

/-- A reading fails unforeseen exactly in the ways listed. -/
theorem receive_fails_undeclared_iff {origin : Bytes} {e : Envelope} {payload : Bytes}
    {own : Material} {fault : ReadFault} :
    (receive origin e payload own = .error fault ∧ fault.isDeclared = false) ↔
      ∃ key, own.asSecretKey = .ok key ∧ Unforeseen e payload key fault := by
  rw [receive_eq_error_iff]
  constructor
  · rintro ⟨⟨refusal, hkey, rfl⟩ | ⟨key, hkey, h⟩, hundeclared⟩
    · have hdeclared := Material.isDeclared_of_asSecretKey hkey
      exact absurd (hdeclared.symm.trans hundeclared) Bool.noConfusion
    · refine ⟨key, hkey, ?_⟩
      rcases h with ⟨refusal, hopen, rfl⟩ | ⟨⟨nonce, participants⟩, hopen, hread⟩
      · obtain ⟨rfl, hrelay⟩ := Envelope.openWith_fails_undeclared_iff.mp ⟨hopen, hundeclared⟩
        exact .relay hrelay
      · rcases readOpened_fails_undeclared_iff.mp ⟨hread, hundeclared⟩ with
          ⟨rfl, hparts⟩ | ⟨rfl, sender, recipients, before, after, encrypted, peer, hparts,
            hpayload, hpeers, hbefore, hagree⟩
        · cases hparts
          exact .parties hopen
        · cases hparts
          exact .peer hopen hpayload hpeers hbefore hagree
  · rintro ⟨key, hkey, hunforeseen⟩
    cases hunforeseen with
    | relay h =>
        obtain ⟨hopen, -⟩ := Envelope.openWith_fails_undeclared_iff.mpr ⟨rfl, h⟩
        exact ⟨.inr ⟨key, hkey, .inl ⟨_, hopen, rfl⟩⟩, rfl⟩
    | @parties nonce hopen =>
        have hread : readOpened origin e payload key ⟨nonce, []⟩ = .error .noParticipants ∧
            ReadFault.noParticipants.isDeclared = false :=
          readOpened_fails_undeclared_iff.mpr (.inl ⟨rfl, rfl⟩)
        exact ⟨.inr ⟨key, hkey, .inr ⟨_, hopen, hread.1⟩⟩, hread.2⟩
    | @peer nonce sender recipients before after encrypted peer hopen hpayload hpeers hbefore
        hrefused =>
        have hread : readOpened origin e payload key ⟨nonce, sender :: recipients⟩ =
            .error (.box .agreementRefused) ∧
              (ReadFault.box .agreementRefused).isDeclared = false :=
          readOpened_fails_undeclared_iff.mpr (.inr ⟨rfl, sender, recipients, before, after,
            encrypted, peer, rfl, hpayload, hpeers, hbefore, hrefused⟩)
        exact ⟨.inr ⟨key, hkey, .inr ⟨_, hopen, hread.1⟩⟩, hread.2⟩

/-- Anybody with whom a reader has a box can make an envelope that lists no parties: its reading
fails so with every payload. -/
theorem exists_unforeseen_parties {own : SecretKey} {peer : PublicKey} {box : Box}
    (hbox : Box.agree peer own = .ok box) (nonce : Nonce) (commitment payload : Bytes) :
    ∃ channels, Unforeseen ⟨nonce.bytes, peer.bytes, commitment, channels⟩ payload own
      .noParticipants :=
  ⟨_, .parties (Envelope.openWith_of_sealedIn (d := ⟨nonce, []⟩) rfl hbox rfl rfl rfl)⟩

end Correspondence
end SealedPost
