import SealedPost.Proofs.Correspondence.Commitment
import SealedPost.Proofs.Correspondence.Nonces

/-!
# Whose channels an envelope has

An envelope has a channel for each party, and a reader opens those of the parties who have the
reader's agreement with the relay key: parties who occur twice have two channels, and somebody
who is no party has none.
-/

namespace SealedPost

open Crypto

/-- The parties who have the same agreement with the relay key as a reader, in order. -/
def SecretKey.agreeing (relay own : SecretKey) (parties : List PublicKey) : List PublicKey :=
  parties.filter fun p =>
    X25519.agree? relay.bytes p.bytes = X25519.agree? own.bytes relay.publicKey.bytes

/-- What a search for channels assumes of the primitives. Boxes between the relay key and a
party, and between the reader and the relay key, have different keys if the agreements differ,
and the secret nonce that is sealed under the one key does not open under the other. -/
structure SecretKey.Separates (relay own : SecretKey) (publicNonce secretNonce : Nonce)
    (parties : List PublicKey) : Prop where
  derivation : ∀ box, Box.agree relay.publicKey own = .ok box → ∀ party ∈ parties, ∀ other,
    Box.agree party relay = .ok other → box.key = other.key →
      X25519.agree? relay.bytes party.bytes = X25519.agree? own.bytes relay.publicKey.bytes
  isolated : ∀ box, Box.agree relay.publicKey own = .ok box → ∀ party ∈ parties, ∀ other,
    Box.agree party relay = .ok other → box.key ≠ other.key →
      box.decrypt? publicNonce (other.sealing publicNonce secretNonce.bytes).ciphertext = none

instance (relay own : SecretKey) (publicNonce secretNonce : Nonce) (parties : List PublicKey) :
    Decidable (relay.Separates own publicNonce secretNonce parties) :=
  decidable_of_iff
    ((∀ box, Box.agree relay.publicKey own = .ok box → ∀ party ∈ parties, ∀ other,
      Box.agree party relay = .ok other → box.key = other.key →
        X25519.agree? relay.bytes party.bytes =
          X25519.agree? own.bytes relay.publicKey.bytes) ∧
      ∀ box, Box.agree relay.publicKey own = .ok box → ∀ party ∈ parties, ∀ other,
        Box.agree party relay = .ok other → box.key ≠ other.key →
          box.decrypt? publicNonce (other.sealing publicNonce secretNonce.bytes).ciphertext =
            none)
    ⟨fun ⟨hderivation, hisolated⟩ => ⟨hderivation, hisolated⟩,
      fun ⟨hderivation, hisolated⟩ => ⟨hderivation, hisolated⟩⟩

namespace Envelope

section Scan

variable {scan : Channel → Except BoxFault (Option Discovery)} {channels : List Channel}
  {results : List (Option Discovery)}

theorem allOpen_eq_ok (h : List.Forall₂ (fun c r => scan c = .ok r) channels results) :
    allOpen scan channels = .ok (results.filterMap id) := by
  rw [allOpen, Attempt.mapM_eq_ok_iff.mpr h, Attempt.ok_bind]
  rfl

/-- The first channel that opens is the first of all that open. -/
theorem firstOpen_eq_ok (h : List.Forall₂ (fun c r => scan c = .ok r) channels results) :
    firstOpen scan channels = .ok (results.filterMap id).head? := by
  induction h with
  | nil => rfl
  | @cons c r rest results hscan _ ih =>
      cases r with
      | none => simp only [firstOpen, hscan, ih, List.filterMap_cons, id]
      | some d => simp only [firstOpen, hscan, List.filterMap_cons, id, List.head?_cons]

/-- The answers of the channels whose party satisfies a condition, where all answer alike. -/
theorem filterMap_answers {α β : Type} (p : α → Prop) [DecidablePred p] (answer : β)
    (l : List α) :
    (l.map fun a => if p a then some answer else none).filterMap id =
      (l.filter p).map fun _ => answer := by
  induction l with
  | nil => rfl
  | cons a rest ih =>
      rw [List.map_cons, List.filterMap_cons, ih]
      by_cases h : p a
      · simp only [if_pos h, id, List.filter_cons, decide_eq_true h, List.map_cons, if_true]
      · simp only [if_neg h, id, List.filter_cons, decide_eq_false h, Bool.false_eq_true, if_false]

end Scan

variable {publicNonce secretNonce : Nonce} {relay own : SecretKey} {parties : List PublicKey}
  {plans : List ChannelPlan}

/-- The channel of a party opens for a reader with the same agreement and is passed over by
one with another agreement. -/
theorem scanChannel_planChannels {shared : Bytes}
    (hplans : planChannels publicNonce secretNonce relay parties = .ok plans)
    (hshared : X25519.agree? own.bytes relay.publicKey.bytes = some shared)
    (hsep : relay.Separates own publicNonce secretNonce parties) :
    List.Forall₂ (fun c r => scanChannel publicNonce relay.publicKey own c = .ok r)
      (plans.map ChannelPlan.channel)
      (parties.map fun p =>
        if X25519.agree? relay.bytes p.bytes = X25519.agree? own.bytes relay.publicKey.bytes then
          some ⟨secretNonce, parties.map PublicKey.bytes⟩
        else none) := by
  have hmem := (List.forall₂_and_left (p := (· ∈ parties)) parties plans).mpr
    ⟨fun _ hparty => hparty, planChannels_eq_ok_iff.mp hplans⟩
  rw [List.forall₂_map_left_iff, List.forall₂_map_right_iff]
  refine hmem.flip.imp ?_
  rintro p party ⟨hparty, other, hother, rfl⟩
  have hbox := Box.agree_eq_ok_iff.mpr ⟨shared, hshared, rfl⟩
  rw [scanChannel, hbox, Attempt.ok_bind]
  split
  · next hsame =>
      obtain ⟨shared', hshared', rfl⟩ := Box.agree_eq_ok_iff.mp hother
      cases hshared'.symm.trans (hsame.trans hshared)
      exact Channel.scan_plan rfl ..
  · next hdiffer =>
      have hkeys := fun heq => hdiffer (hsep.derivation _ hbox party hparty other hother heq)
      exact Channel.scan_of_decrypt?_eq_none (hsep.isolated _ hbox party hparty other hother hkeys)

/-- A reader whose agreement with the relay key is not refused opens the channels of the
parties with the same agreement, in order. -/
theorem openings_assemble {shared : Bytes} (origin : Bytes) {sender : PublicKey}
    {recipients : List PublicKey} (message : Message) {material : Material}
    (hplans : planChannels publicNonce secretNonce relay (sender :: recipients) = .ok plans)
    (hmaterial : material.asSecretKey = .ok own)
    (hshared : X25519.agree? own.bytes relay.publicKey.bytes = some shared)
    (hsep : relay.Separates own publicNonce secretNonce (sender :: recipients)) :
    let e := assemble origin publicNonce secretNonce relay sender recipients message plans
    let names := (sender :: recipients).map PublicKey.bytes
    let found := (relay.agreeing own (sender :: recipients)).map fun _ =>
      (⟨secretNonce, names⟩ : Discovery)
    e.decryptWith material =
        .ok { e with channels := found.map fun d => ⟨d.secretNonce.bytes, d.participants⟩ } ∧
      e.openWith material = .ok found.head? := by
  intro e names found
  have hresults := scanChannel_planChannels hplans hshared hsep
  have hfound := filterMap_answers (fun p : PublicKey => X25519.agree? relay.bytes p.bytes =
    X25519.agree? own.bytes relay.publicKey.bytes) (⟨secretNonce, names⟩ : Discovery)
    (sender :: recipients)
  constructor
  · rw [decryptWith, scanner_assemble _ _ _ _ _ _ _ _ hmaterial, Attempt.ok_bind,
      show e.channels = plans.map ChannelPlan.channel from rfl, allOpen_eq_ok hresults, hfound]
    rfl
  · rw [openWith, scanner_assemble _ _ _ _ _ _ _ _ hmaterial, Attempt.ok_bind,
      show e.channels = plans.map ChannelPlan.channel from rfl, firstOpen_eq_ok hresults, hfound]
    rfl

/-- A drafted envelope has a channel for each party, and each channel names all parties. Who is
a party opens the channels of the parties with the same agreement with the relay key, each to
the secret nonce and the list of parties, and nothing else of the envelope changes. Who has an
agreement with the relay key, but that of no party, opens no channel. -/
theorem channels_belong_to_parties {origin : Bytes} {publicNonce sender : Material}
    {recipients : List Material} {message : Message} {entropy : Entropy} {e : Envelope}
    {secretNonce : Nonce}
    (h : draft origin publicNonce sender recipients message entropy = .ok (e, secretNonce)) :
    ∃ nonce key keys, publicNonce.nonce = .ok nonce ∧ sender.asPublicKey = .ok key ∧
      recipients.mapM Material.asPublicKey = .ok keys ∧
      let relay := entropy.nonce.2.secretKey.1
      let parties := key :: keys
      let names := parties.map PublicKey.bytes
      e.relayKey = relay.publicKey.bytes ∧
      e.channels.length = parties.length ∧
      (∀ c ∈ e.channels, c.sealedParticipants.length = parties.length) ∧
      ∀ (own : Material) (sk : SecretKey), own.asSecretKey = .ok sk →
        relay.Separates sk nonce secretNonce parties →
        (sk.publicKey ∈ parties → relay.Symmetric sk →
          e.decryptWith own = .ok { e with
            channels := (relay.agreeing sk parties).map fun _ => ⟨secretNonce.bytes, names⟩ } ∧
          e.openWith own = .ok (some ⟨secretNonce, names⟩)) ∧
        (X25519.agree? sk.bytes relay.publicKey.bytes ≠ none →
          (∀ p ∈ parties, X25519.agree? relay.bytes p.bytes ≠
            X25519.agree? sk.bytes relay.publicKey.bytes) →
          e.decryptWith own = .ok { e with channels := [] } ∧ e.openWith own = .ok none) := by
  obtain ⟨nonce, key, keys, plans, hnonce, hkey, hkeys, hplans, rfl, rfl⟩ := draft_eq_ok_iff.mp h
  have hforall := planChannels_eq_ok_iff.mp hplans
  refine ⟨nonce, key, keys, hnonce, hkey, hkeys, rfl, ?_, ?_, ?_⟩
  · rw [assemble, List.length_map]
    exact hforall.length_eq.symm
  · intro c hc
    obtain ⟨p, hp, rfl⟩ := List.mem_map.mp hc
    obtain ⟨party, -, box, -, rfl⟩ := Attempt.exists_of_mem hforall hp
    simp only [ChannelPlan.channel, Channel.plan, List.length_map]
  · intro own sk hown hsep
    constructor
    · intro hparty hsym
      obtain ⟨plan, -, box, hbox, -⟩ := Attempt.exists_of_mem hforall.flip hparty
      obtain ⟨shared, hshared, -⟩ := Box.agree_eq_ok_iff.mp hbox
      have hagreed := hsym.symm.trans hshared
      obtain ⟨hdecrypt, hopen⟩ := openings_assemble origin message hplans hown hagreed hsep
      have hmem : sk.publicKey ∈ SecretKey.agreeing _ sk (key :: keys) :=
        List.mem_filter.mpr ⟨hparty, decide_eq_true hsym⟩
      constructor
      · rw [hdecrypt, List.map_map]
        rfl
      · rw [hopen, List.head?_map, List.head?_eq_some_head (List.ne_nil_of_mem hmem)]
        rfl
    · intro hagreed hforeign
      obtain ⟨shared, hshared⟩ := Option.ne_none_iff_exists'.mp hagreed
      obtain ⟨hdecrypt, hopen⟩ := openings_assemble origin message hplans hown hshared hsep
      have hnone : SecretKey.agreeing _ sk (key :: keys) = [] :=
        List.filter_eq_nil_iff.mpr fun p hp => by simpa using hforeign p hp
      rw [hnone] at hdecrypt hopen
      exact ⟨hdecrypt, hopen⟩

end Envelope

namespace Correspondence

/-- Somebody who is no party of the note. -/
def noteStranger : SecretKey := ⟨List.replicate 32 11, List.length_replicate⟩

/-- The parties of a note that names its recipient twice. -/
def noteParties : List PublicKey :=
  [noteSender.publicKey, noteRecipient.publicKey, noteRecipient.publicKey]

/-- The envelope of this note. -/
def draftNoteTwice : Except BoxFault (Envelope × Nonce) :=
  Envelope.draft [4] (.bytes (List.replicate 24 5)) (.publicKey noteSender.publicKey)
    [.publicKey noteRecipient.publicKey, .publicKey noteRecipient.publicKey] note noteEntropy

theorem exists_draftNoteTwice : ∃ d, draftNoteTwice = .ok d :=
  Attempt.exists_eq_ok_of_isOk (by decide +kernel)

/-- The relay key of this note. -/
def noteRelay : SecretKey := noteEntropy.nonce.2.secretKey.1

/-- For this note, what is assumed of the primitives can be computed. -/
theorem noteRelay_separates : ∀ nonce, (Material.bytes (List.replicate 24 5)).nonce = .ok nonce →
    ∀ sk ∈ [noteSender, noteRecipient, noteStranger],
      noteRelay.Separates sk nonce noteEntropy.nonce.1 noteParties := by
  decide +kernel

theorem noteRelay_symmetric :
    noteRelay.Symmetric noteSender ∧ noteRelay.Symmetric noteRecipient := by
  decide +kernel

theorem noteRelay_agreeing :
    noteRelay.agreeing noteSender noteParties = [noteSender.publicKey] ∧
      noteRelay.agreeing noteRecipient noteParties =
        [noteRecipient.publicKey, noteRecipient.publicKey] := by
  decide +kernel

/-- The stranger has an agreement with the relay key that no party has. -/
theorem noteRelay_agree?_noteStranger :
    X25519.agree? noteStranger.bytes noteRelay.publicKey.bytes ≠ none ∧
      ∀ p ∈ noteParties, X25519.agree? noteRelay.bytes p.bytes ≠
        X25519.agree? noteStranger.bytes noteRelay.publicKey.bytes := by
  decide +kernel

/-- The sender opens one channel of the note, the recipient two, and a stranger none. -/
theorem channels_of_note_belong_to_parties : ∃ e secretNonce,
    draftNoteTwice = .ok (e, secretNonce) ∧ e.channels.length = 3 ∧
    let names := noteParties.map PublicKey.bytes
    let plain : Channel := ⟨secretNonce.bytes, names⟩
    e.decryptWith (.secretKey noteSender) = .ok { e with channels := [plain] } ∧
    e.openWith (.secretKey noteSender) = .ok (some ⟨secretNonce, names⟩) ∧
    e.decryptWith (.secretKey noteRecipient) = .ok { e with channels := [plain, plain] } ∧
    e.openWith (.secretKey noteRecipient) = .ok (some ⟨secretNonce, names⟩) ∧
    e.decryptWith (.secretKey noteStranger) = .ok { e with channels := [] } ∧
    e.openWith (.secretKey noteStranger) = .ok none := by
  obtain ⟨⟨e, secretNonce⟩, h⟩ := exists_draftNoteTwice
  obtain ⟨nonce, key, keys, hnonce, hkey, hkeys, -, hlength, -, hreaders⟩ :=
    Envelope.channels_belong_to_parties h
  cases hkey
  cases hkeys
  obtain ⟨-, -, -, -, -, -, -, -, -, rfl⟩ := Envelope.draft_eq_ok_iff.mp h
  have hsep := noteRelay_separates nonce hnonce
  obtain ⟨hsender, hrecipient⟩ := noteRelay_agreeing
  obtain ⟨hdecrypt, hopen⟩ := (hreaders (.secretKey noteSender) noteSender rfl
    (hsep _ (by simp))).1 (by simp) noteRelay_symmetric.1
  obtain ⟨hdecrypt', hopen'⟩ := (hreaders (.secretKey noteRecipient) noteRecipient rfl
    (hsep _ (by simp))).1 (by simp) noteRelay_symmetric.2
  obtain ⟨hnone, hnone'⟩ := (hreaders (.secretKey noteStranger) noteStranger rfl
    (hsep _ (by simp))).2 noteRelay_agree?_noteStranger.1 noteRelay_agree?_noteStranger.2
  refine ⟨e, _, h, hlength, ?_⟩
  intro names plain
  refine ⟨?_, hopen, ?_, hopen', hnone, hnone'⟩
  · have hagreeing : e.decryptWith (.secretKey noteSender) = .ok { e with
        channels := (noteRelay.agreeing noteSender noteParties).map fun _ => plain } := hdecrypt
    rw [hagreeing, hsender]
    rfl
  · have hagreeing : e.decryptWith (.secretKey noteRecipient) = .ok { e with
        channels := (noteRelay.agreeing noteRecipient noteParties).map fun _ => plain } := hdecrypt'
    rw [hagreeing, hrecipient]
    rfl

end Correspondence
end SealedPost
