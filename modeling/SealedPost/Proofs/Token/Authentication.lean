import SealedPost.Proofs.Attempt
import SealedPost.Proofs.Token.Compact
import SealedPost.Token.Authentication

/-!
# What an accepted token is

A call presents a token, the token proves a claim, the times of the claim fit the clock, and
its identifier is not in use. What the token proves depends on what was signed and on
nothing else, and neither the clock nor the cache change it.
-/

namespace SealedPost.Token

open Crypto

/-- The token that an authorization presents. -/
def presented (authorization : Option Text) : Except Refusal Compact := do
  let text ← bearer authorization
  Compact.parse text

/-- What a token proves without regard to clock and cache: the account that signed it claims
an identifier, an action and two times. -/
structure Compact.Proves (token : Compact) (issued : Int) (claim : Claim) : Prop where
  algorithm : (Json.member? "alg" token.header).bind Json.text? = some ("EdDSA" : Text)
  account : claimedAccount token = .ok claim.account
  times : claimedTimes token = .ok (issued, claim.expiry)
  signature : Ed25519.verify claim.account (Utf8.encode token.signingInput) token.signature = true
  id : claim.id = idText token.payload
  action : claim.action = (Json.member? "act" token.payload).bind Json.text?

theorem checkTimes_eq_ok_iff {leeway now issued expiry : Int} :
    checkTimes leeway now issued expiry = .ok () ↔
      issued ≠ 0 ∧ expiry ≠ 0 ∧ issued ≤ now + leeway ∧ now ≤ expiry + leeway := by
  constructor
  · intro h
    unfold checkTimes at h
    split at h
    · cases h
    · rename_i hpresent
      split at h
      · cases h
      · split at h
        · cases h
        · obtain ⟨hissued, hexpiry⟩ := not_or.mp hpresent
          exact ⟨hissued, hexpiry, by omega, by omega⟩
  · rintro ⟨hissued, hexpiry, hstarted, hvalid⟩
    have hpresent : ¬ (issued = 0 ∨ expiry = 0) := not_or.mpr ⟨hissued, hexpiry⟩
    have hnotFuture : ¬ now + leeway < issued := by omega
    have hnotExpired : ¬ expiry < now - leeway := by omega
    rw [checkTimes, if_neg hpresent, if_neg hnotFuture, if_neg hnotExpired]

theorem checkSignature_eq_ok_iff {account data signature : Bytes} :
    checkSignature account data signature = .ok () ↔
      Ed25519.verify account data signature = true := by
  unfold checkSignature
  split
  · simp [*]
  · simp [*]

/-- A call is verified exactly if it presents a token that proves the claim at its times. -/
theorem verify_eq_ok_iff {leeway now : Int} {authorization : Option Text} {claim : Claim} :
    verify leeway now authorization = .ok claim ↔
      ∃ token issued, presented authorization = .ok token ∧ token.Proves issued claim ∧
        checkTimes leeway now issued claim.expiry = .ok () := by
  constructor
  · intro h
    simp only [verify, Attempt.bind_eq_ok_iff] at h
    obtain ⟨text, htext, token, htoken, h⟩ := h
    split at h
    · cases h
    · rename_i halgorithm
      simp only [Attempt.bind_eq_ok_iff, Attempt.pure_eq_ok_iff] at h
      obtain ⟨account, haccount, ⟨issued, expiry⟩, hclaimed, ⟨⟩, htimes, ⟨⟩,
        hsignature, rfl⟩ := h
      refine ⟨token, issued, Attempt.bind_eq_ok_iff.mpr ⟨text, htext, htoken⟩, ?_, htimes⟩
      exact ⟨not_ne_iff.mp halgorithm, haccount, hclaimed,
        checkSignature_eq_ok_iff.mp hsignature, rfl, rfl⟩
  · rintro ⟨token, issued, htoken, hproves, htimes⟩
    obtain ⟨text, htext, hparse⟩ := Attempt.bind_eq_ok_iff.mp htoken
    obtain ⟨account, id, expiry, action⟩ := claim
    obtain ⟨halgorithm, haccount, hclaimed, hsignature, rfl, rfl⟩ := hproves
    simp only [verify, Attempt.bind_eq_ok_iff]
    refine ⟨text, htext, token, hparse, ?_⟩
    rw [if_neg (not_ne_iff.mpr halgorithm)]
    simp only [Attempt.bind_eq_ok_iff, Attempt.pure_eq_ok_iff]
    exact ⟨account, haccount, (issued, expiry), hclaimed, (), htimes, (),
      checkSignature_eq_ok_iff.mpr hsignature, rfl⟩

/-- Tokens with one signed text prove one claim. -/
theorem Compact.Proves.eq_of_signingInput_eq {authorization authorization' : Option Text}
    {token token' : Compact} {issued issued' : Int} {claim claim' : Claim}
    (htoken : presented authorization = .ok token)
    (htoken' : presented authorization' = .ok token')
    (hinput : token.signingInput = token'.signingInput) (h : token.Proves issued claim)
    (h' : token'.Proves issued' claim') : issued = issued' ∧ claim = claim' := by
  obtain ⟨text, -, hparse⟩ := Attempt.bind_eq_ok_iff.mp htoken
  obtain ⟨text', -, hparse'⟩ := Attempt.bind_eq_ok_iff.mp htoken'
  obtain ⟨hheader, hpayload⟩ := Compact.eq_of_signingInput_eq hparse hparse' hinput
  obtain ⟨account, id, expiry, action⟩ := claim
  obtain ⟨account', id', expiry', action'⟩ := claim'
  obtain ⟨-, haccount, htimes, -, rfl, rfl⟩ := h
  obtain ⟨-, haccount', htimes', -, rfl, rfl⟩ := h'
  have haccounts : account = account' := by
    rw [claimedAccount, hheader, hpayload] at haccount
    rw [claimedAccount] at haccount'
    exact Except.ok.inj (haccount.symm.trans haccount')
  have hclaimed : (issued, expiry) = (issued', expiry') := by
    rw [claimedTimes, hpayload] at htimes
    rw [claimedTimes] at htimes'
    exact Except.ok.inj (htimes.symm.trans htimes')
  cases hclaimed
  rw [haccounts, hpayload]
  exact ⟨rfl, rfl⟩

/-- A token is verified up to its expiry and the leeway. -/
theorem le_of_verify {leeway now : Int} {authorization : Option Text} {claim : Claim}
    (h : verify leeway now authorization = .ok claim) : now ≤ claim.expiry + leeway := by
  obtain ⟨token, issued, -, -, htimes⟩ := verify_eq_ok_iff.mp h
  exact (checkTimes_eq_ok_iff.mp htimes).2.2.2

/-- What is verified at some time is verified at any later time up to its expiry and the
leeway. -/
theorem verify_of_le {leeway now later : Int} {authorization : Option Text} {claim : Claim}
    (h : verify leeway now authorization = .ok claim) (hlater : now ≤ later) :
    verify leeway later authorization = .ok claim ↔ later ≤ claim.expiry + leeway := by
  obtain ⟨token, issued, htoken, hproves, htimes⟩ := verify_eq_ok_iff.mp h
  obtain ⟨hissued, hexpiry, hstarted, -⟩ := checkTimes_eq_ok_iff.mp htimes
  constructor
  · exact le_of_verify
  · intro hvalid
    exact verify_eq_ok_iff.mpr ⟨token, issued, htoken, hproves,
      checkTimes_eq_ok_iff.mpr ⟨hissued, hexpiry, by omega, hvalid⟩⟩

/-- A call that is not verified leaves the cache alone. -/
theorem authenticate_of_error {settings : Settings} {now : Int} {authorization : Option Text}
    {refusal : Refusal} (h : verify settings.leeway now authorization = .error refusal)
    (cache : Cache) : authenticate settings now cache authorization = (.error refusal, cache) := by
  rw [authenticate, h]

/-- A verified call takes its identifier, and its action is looked at after that. -/
theorem authenticate_of_ok {settings : Settings} {now : Int} {authorization : Option Text}
    {claim : Claim} (h : verify settings.leeway now authorization = .ok claim) (cache : Cache) :
    authenticate settings now cache authorization =
      ((cache.take settings.idLifetime claim.id now claim.expiry).1 >>= fun _ =>
        checkAction claim,
      (cache.take settings.idLifetime claim.id now claim.expiry).2) := by
  simp only [authenticate, h]
  rcases cache.take settings.idLifetime claim.id now claim.expiry with ⟨refusal | _, after⟩
  · rfl
  · rfl

/-- A call is answered with an account exactly if it is verified, its identifier can be
taken and its action is one for messages. -/
theorem authenticate_eq_ok_iff {settings : Settings} {now : Int} {cache : Cache}
    {authorization : Option Text} {account : Bytes} :
    (authenticate settings now cache authorization).1 = .ok account ↔
      ∃ claim, verify settings.leeway now authorization = .ok claim ∧
        (cache.take settings.idLifetime claim.id now claim.expiry).1 = .ok () ∧
        checkAction claim = .ok account := by
  cases h : verify settings.leeway now authorization with
  | error refusal =>
      rw [authenticate_of_error h]
      constructor
      · intro hanswer
        cases hanswer
      · rintro ⟨claim, hclaim, -⟩
        cases hclaim
  | ok claim =>
      rw [authenticate_of_ok h, Attempt.bind_eq_ok_iff]
      constructor
      · rintro ⟨⟨⟩, htake, haction⟩
        exact ⟨claim, rfl, htake, haction⟩
      · rintro ⟨claim', hclaim, htake, haction⟩
        cases hclaim
        exact ⟨(), htake, haction⟩

end SealedPost.Token
