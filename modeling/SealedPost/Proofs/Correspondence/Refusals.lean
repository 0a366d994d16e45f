import SealedPost.Proofs.Agreement
import SealedPost.Proofs.Correspondence.Composing
import SealedPost.Proofs.Correspondence.Failures

/-!
# How a composition fails

A composition takes the own key, then the keys of the recipients, then the public nonce, and its
failure tells the first of them that could not be taken. All that can fail after that is a key
agreement, the one of the relay key with a party or the one of the sender with a recipient. This
failure is not foreseen, and there are keys of the right length that bring it about for everybody.
-/

namespace SealedPost

open Crypto

namespace Material

variable {m : Material} {fault : BoxFault}

theorem nonce_eq_error_iff :
    m.nonce = .error fault ↔ fault = .invalidNonce m ∧ ∀ nonce, m.nonce ≠ .ok nonce :=
  Attempt.eq_error_iff_of_forall fun _ => eq_invalidNonce

theorem asPublicKey_eq_error_iff :
    m.asPublicKey = .error fault ↔ fault = .invalidPublicKey m ∧ ∀ key, m.asPublicKey ≠ .ok key :=
  Attempt.eq_error_iff_of_forall fun _ => eq_invalidPublicKey

theorem asSecretKey_eq_error_iff :
    m.asSecretKey = .error fault ↔ fault = .invalidSecretKey ∧ ∀ key, m.asSecretKey ≠ .ok key :=
  Attempt.eq_error_iff_of_forall fun _ => eq_invalidSecretKey

end Material

/-- What is done in a box for each of several peers fails exactly if the agreement with one of
them is refused. -/
theorem Box.mapM_agree_eq_error_iff {β : Type} {own : SecretKey} {peers : List PublicKey}
    {make : PublicKey → Box → β} {fault : BoxFault} :
    (peers.mapM fun peer => do
        let box ← agree peer own
        pure (make peer box)) = .error fault ↔
      fault = .agreementRefused ∧ ∃ peer ∈ peers, X25519.agree? own.bytes peer.bytes = none := by
  have hstep (peer : PublicKey) (fault : BoxFault) :
      ((do
        let box ← agree peer own
        pure (make peer box) : Except BoxFault β) = .error fault) ↔
        fault = .agreementRefused ∧ X25519.agree? own.bytes peer.bytes = none := by
    rw [Attempt.bind_eq_error_iff, agree_eq_error_iff]
    constructor
    · rintro (h | ⟨box, -, hpure⟩)
      · exact h
      · cases hpure
    · exact .inl
  constructor
  · intro h
    obtain ⟨peer, hpeer, hfail⟩ := Attempt.exists_of_mapM_eq_error h
    obtain ⟨hfault, hrefused⟩ := (hstep peer fault).mp hfail
    exact ⟨hfault, peer, hpeer, hrefused⟩
  · rintro ⟨rfl, peer, hpeer, hrefused⟩
    cases hresult : (peers.mapM fun peer => do
        let box ← agree peer own
        pure (make peer box)) with
    | error fault =>
        obtain ⟨other, -, hfail⟩ := Attempt.exists_of_mapM_eq_error hresult
        exact congrArg Except.error ((hstep other fault).mp hfail).1
    | ok results =>
        -- A list of results would have one for the peer whose agreement is refused.
        have hresults := (Attempt.mapM_eq_ok_iff.mp hresult).flip
        obtain ⟨result, -, hok⟩ := Attempt.exists_of_mem hresults hpeer
        cases hok.symm.trans ((hstep peer _).mpr ⟨rfl, hrefused⟩)

theorem Envelope.planChannels_eq_error_iff {publicNonce secretNonce : Nonce} {relay : SecretKey}
    {parties : List PublicKey} {fault : BoxFault} :
    planChannels publicNonce secretNonce relay parties = .error fault ↔
      fault = .agreementRefused ∧
        ∃ party ∈ parties, X25519.agree? relay.bytes party.bytes = none :=
  Box.mapM_agree_eq_error_iff

namespace Composition

/-- A plan fails exactly if the agreement of the relay key with a party or that of the sender with
a recipient is refused. -/
theorem plan_eq_error_iff {origin : Bytes} {own relay : SecretKey} {recipients : List PublicKey}
    {message : Message} {publicNonce secretNonce : Nonce} {fault : BoxFault} :
    plan origin own recipients message publicNonce secretNonce relay = .error fault ↔
      fault = .agreementRefused ∧
        ((∃ party ∈ own.publicKey :: recipients, X25519.agree? relay.bytes party.bytes = none) ∨
          ∃ recipient ∈ recipients, X25519.agree? own.bytes recipient.bytes = none) := by
  have hcopies (fault : BoxFault) : (recipients.mapM fun recipient => do
        let box ← Box.agree recipient own
        pure (⟨recipient, box.planMessage secretNonce message⟩ : CopyPlan)) = .error fault ↔
      fault = .agreementRefused ∧
        ∃ recipient ∈ recipients, X25519.agree? own.bytes recipient.bytes = none :=
    Box.mapM_agree_eq_error_iff
  constructor
  · intro h
    rcases Attempt.bind_eq_error_iff.mp h with h | ⟨channels, -, h⟩
    · obtain ⟨hfault, hparty⟩ := Envelope.planChannels_eq_error_iff.mp h
      exact ⟨hfault, .inl hparty⟩
    · rcases Attempt.bind_eq_error_iff.mp h with h | ⟨copies, -, hpure⟩
      · obtain ⟨hfault, hrecipient⟩ := (hcopies fault).mp h
        exact ⟨hfault, .inr hrecipient⟩
      · cases hpure
  · rintro ⟨rfl, hrefused⟩
    apply Attempt.bind_eq_error_iff.mpr
    rcases hrefused with hparty | hrecipient
    · exact .inl (Envelope.planChannels_eq_error_iff.mpr ⟨rfl, hparty⟩)
    · cases hresult : Envelope.planChannels publicNonce secretNonce relay
          (own.publicKey :: recipients) with
      | error fault =>
          obtain ⟨hfault, -⟩ := Envelope.planChannels_eq_error_iff.mp hresult
          exact .inl (congrArg Except.error hfault)
      | ok channels =>
          refine .inr ⟨channels, rfl, ?_⟩
          apply Attempt.bind_eq_error_iff.mpr
          exact .inl ((hcopies _).mpr ⟨rfl, hrecipient⟩)

end Composition

namespace Correspondence

section Draws

variable (publicNonce : Option Material) (entropy : Entropy)

/-- The public nonce of a composition: the one that is given, or else the first draw. -/
def publicNonceOf : Material := publicNonce.getD (.bytes entropy.nonce.1.bytes)

/-- The randomness that is left when the public nonce is there. -/
def entropyAfterNonce : Entropy := publicNonce.elim entropy.nonce.2 fun _ => entropy

/-- The relay key that a composition draws after its secret nonce. -/
def relayOf : SecretKey := (entropyAfterNonce publicNonce entropy).nonce.2.secretKey.1

end Draws

variable {origin : Bytes} {own : Material} {recipients : List Material} {message : Message}
  {publicNonce : Option Material} {entropy : Entropy} {fault : BoxFault}

theorem composition_eq (origin : Bytes) (own : Material) (recipients : List Material)
    (message : Message) (publicNonce : Option Material) (entropy : Entropy) :
    composition origin own recipients message publicNonce entropy = (do
      let own ← own.asSecretKey
      let recipients ← recipients.mapM Material.asPublicKey
      let nonce ← (publicNonceOf publicNonce entropy).nonce
      Composition.plan origin own recipients message nonce
        (entropyAfterNonce publicNonce entropy).nonce.1 (relayOf publicNonce entropy)) := by
  cases publicNonce <;> rfl

/-- A nonce that is drawn can be taken, so only a given one is refused. -/
theorem publicNonceOf_eq_error_iff :
    (publicNonceOf publicNonce entropy).nonce = .error fault ↔
      ∃ given, publicNonce = some given ∧ fault = .invalidNonce given ∧
        ∀ nonce, given.nonce ≠ .ok nonce := by
  cases publicNonce with
  | none => simp [publicNonceOf, Material.nonce_bytes]
  | some given => simp [publicNonceOf, Material.nonce_eq_error_iff]

/-- All keys and nonces of a composition can be taken, and an agreement that it needs is refused. -/
def Unagreed (own : Material) (recipients : List Material) (publicNonce : Option Material)
    (entropy : Entropy) : Prop :=
  ∃ key keys nonce, own.asSecretKey = .ok key ∧ recipients.mapM Material.asPublicKey = .ok keys ∧
    (publicNonceOf publicNonce entropy).nonce = .ok nonce ∧
    ((∃ party ∈ key.publicKey :: keys,
        X25519.agree? (relayOf publicNonce entropy).bytes party.bytes = none) ∨
      ∃ recipient ∈ keys, X25519.agree? key.bytes recipient.bytes = none)

/-- The ways in which a composition fails. -/
inductive Refusal (own : Material) (recipients : List Material) (publicNonce : Option Material)
    (entropy : Entropy) : BoxFault → Prop
  | secretKey (hown : ∀ key, own.asSecretKey ≠ .ok key) :
      Refusal own recipients publicNonce entropy .invalidSecretKey
  | recipient {key : SecretKey} {before after : List Material} {m : Material}
      (hown : own.asSecretKey = .ok key) (hsplit : recipients = before ++ m :: after)
      (hbefore : ∀ r ∈ before, ∃ k, r.asPublicKey = .ok k) (hm : ∀ k, m.asPublicKey ≠ .ok k) :
      Refusal own recipients publicNonce entropy (.invalidPublicKey m)
  | publicNonce {key : SecretKey} {keys : List PublicKey} {given : Material}
      (hown : own.asSecretKey = .ok key) (hkeys : recipients.mapM Material.asPublicKey = .ok keys)
      (hgiven : publicNonce = some given) (hnonce : ∀ nonce, given.nonce ≠ .ok nonce) :
      Refusal own recipients publicNonce entropy (.invalidNonce given)
  | agreement (h : Unagreed own recipients publicNonce entropy) :
      Refusal own recipients publicNonce entropy .agreementRefused

/-- Of the ways listed only a refused agreement is not foreseen. -/
theorem refusal_undeclared_iff :
    (Refusal own recipients publicNonce entropy fault ∧ fault.isDeclared = false) ↔
      fault = .agreementRefused ∧ Unagreed own recipients publicNonce entropy := by
  constructor
  · rintro ⟨hrefusal, hundeclared⟩
    cases hrefusal with
    | agreement h => exact ⟨rfl, h⟩
    | secretKey _ => cases hundeclared
    | recipient _ _ _ _ => cases hundeclared
    | publicNonce _ _ _ _ => cases hundeclared
  · rintro ⟨rfl, h⟩
    exact ⟨.agreement h, rfl⟩

/-- A composition fails exactly in the ways listed. -/
theorem compose_eq_error_iff :
    compose origin own recipients message publicNonce entropy = .error fault ↔
      Refusal own recipients publicNonce entropy fault := by
  have hcompose : compose origin own recipients message publicNonce entropy = .error fault ↔
      composition origin own recipients message publicNonce entropy = .error fault := by
    rw [compose, Attempt.bind_eq_error_iff]
    constructor
    · rintro (h | ⟨plan, -, hpure⟩)
      · exact h
      · cases hpure
    · exact .inl
  rw [hcompose, composition_eq]
  constructor
  · intro h
    rcases Attempt.bind_eq_error_iff.mp h with h | ⟨key, hown, h⟩
    · obtain ⟨rfl, hnone⟩ := Material.asSecretKey_eq_error_iff.mp h
      exact .secretKey hnone
    · rcases Attempt.bind_eq_error_iff.mp h with h | ⟨keys, hkeys, h⟩
      · obtain ⟨before, m, after, hsplit, hbefore, hm⟩ := Attempt.mapM_eq_error_iff.mp h
        obtain ⟨rfl, hnone⟩ := Material.asPublicKey_eq_error_iff.mp hm
        exact .recipient hown hsplit hbefore hnone
      · rcases Attempt.bind_eq_error_iff.mp h with h | ⟨nonce, hnonce, h⟩
        · obtain ⟨given, hgiven, rfl, hnone⟩ := publicNonceOf_eq_error_iff.mp h
          exact .publicNonce hown hkeys hgiven hnone
        · obtain ⟨rfl, hrefused⟩ := Composition.plan_eq_error_iff.mp h
          exact .agreement ⟨key, keys, nonce, hown, hkeys, hnonce, hrefused⟩
  · intro h
    apply Attempt.bind_eq_error_iff.mpr
    cases h with
    | secretKey hown => exact .inl (Material.asSecretKey_eq_error_iff.mpr ⟨rfl, hown⟩)
    | @recipient key before after m hown hsplit hbefore hm =>
        have hfail : recipients.mapM Material.asPublicKey = .error (.invalidPublicKey m) :=
          Attempt.mapM_eq_error_iff.mpr ⟨before, m, after, hsplit, hbefore,
            Material.asPublicKey_eq_error_iff.mpr ⟨rfl, hm⟩⟩
        exact .inr ⟨key, hown, Attempt.bind_eq_error_iff.mpr (.inl hfail)⟩
    | @publicNonce key keys given hown hkeys hgiven hnonce =>
        refine .inr ⟨key, hown, Attempt.bind_eq_error_iff.mpr (.inr ⟨keys, hkeys, ?_⟩)⟩
        apply Attempt.bind_eq_error_iff.mpr
        exact .inl (publicNonceOf_eq_error_iff.mpr ⟨given, hgiven, rfl, hnonce⟩)
    | agreement h =>
        obtain ⟨key, keys, nonce, hown, hkeys, hnonce, hrefused⟩ := h
        refine .inr ⟨key, hown, Attempt.bind_eq_error_iff.mpr (.inr ⟨keys, hkeys, ?_⟩)⟩
        apply Attempt.bind_eq_error_iff.mpr
        exact .inr ⟨nonce, hnonce, Composition.plan_eq_error_iff.mpr ⟨rfl, hrefused⟩⟩

/-- Whoever sends whatever to whomever else, a recipient's key that stands for the coordinate zero
makes the composition fail unforeseen. -/
theorem compose_of_coordinate {key : SecretKey} {keys : List PublicKey} {recipient : PublicKey}
    (hown : own.asSecretKey = .ok key) (hkeys : recipients.mapM Material.asPublicKey = .ok keys)
    (hrecipient : recipient ∈ keys) (hzero : X25519.coordinate recipient.bytes = 0)
    (origin : Bytes) (message : Message) (entropy : Entropy) :
    compose origin own recipients message none entropy = .error .agreementRefused := by
  have hrefused : ∃ peer ∈ keys, X25519.agree? key.bytes peer.bytes = none :=
    ⟨recipient, hrecipient, X25519.agree?_eq_none_of_coordinate hzero _⟩
  apply compose_eq_error_iff.mpr
  exact .agreement ⟨key, keys, _, hown, hkeys, Material.nonce_bytes _, .inr hrefused⟩

end Correspondence
end SealedPost
