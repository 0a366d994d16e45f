import SealedPost.Proofs.Token.Authentication

/-!
# Which check refuses a call

Each check refuses in its own ways, and no two checks share one. So a refusal names the check at
which the call stopped: the checks before it passed, and those after it were not made.
-/

namespace SealedPost.Token

section Checks

variable {r : Refusal}

theorem bearer_eq_error {authorization : Option Text} (h : bearer authorization = .error r) :
    r = .missingToken := by
  unfold bearer at h
  split at h
  · cases h
    rfl
  · dsimp only at h
    split at h
    · cases h
    · cases h
      rfl

theorem Compact.parse_eq_error {t : Text} (h : Compact.parse t = .error r) :
    r = .malformedToken := by
  unfold Compact.parse at h
  split at h
  · split at h
    · cases h
    · cases h
      rfl
  · cases h
    rfl

theorem presented_eq_error {authorization : Option Text}
    (h : presented authorization = .error r) : r = .missingToken ∨ r = .malformedToken := by
  rcases Attempt.bind_eq_error_iff.mp h with hbearer | ⟨text, -, hparse⟩
  · exact .inl (bearer_eq_error hbearer)
  · exact .inr (Compact.parse_eq_error hparse)

theorem account_eq_error {t : Text} (h : account t = .error r) : r = .invalidAccount := by
  unfold account at h
  split at h
  · split at h
    · cases h
    · cases h
      rfl
  · cases h
    rfl

theorem claimedAccount_eq_error {token : Compact} (h : claimedAccount token = .error r) :
    r = .missingAccount ∨ r = .accountMismatch ∨ r = .invalidAccount := by
  unfold claimedAccount at h
  dsimp only at h
  split at h
  · cases h
    exact .inl rfl
  · split at h
    · cases h
      exact .inr (.inl rfl)
    · exact .inr (.inr (account_eq_error h))

theorem claimedTimes_eq_error_iff {token : Compact} :
    claimedTimes token = .error r ↔ r = .invalidTimes ∧
      (time? "iat" token.payload = none ∨ time? "exp" token.payload = none) := by
  unfold claimedTimes
  cases time? "iat" token.payload <;> cases time? "exp" token.payload <;> simp [eq_comm]

theorem checkTimes_eq_error {leeway now issued expiry : Int}
    (h : checkTimes leeway now issued expiry = .error r) :
    r = .missingTimes ∨ r = .issuedInFuture ∨ r = .expired := by
  unfold checkTimes at h
  split at h
  · cases h
    exact .inl rfl
  · split at h
    · cases h
      exact .inr (.inl rfl)
    · split at h
      · cases h
        exact .inr (.inr rfl)
      · cases h

theorem checkSignature_eq_error {account data signature : Bytes}
    (h : checkSignature account data signature = .error r) : r = .badSignature := by
  unfold checkSignature at h
  split at h
  · cases h
  · cases h
    rfl

theorem checkAction_eq_error {claim : Claim} (h : checkAction claim = .error r) :
    r = .wrongAction := by
  unfold checkAction at h
  split at h
  · split at h
    · cases h
    · cases h
      rfl
  · cases h
    rfl

end Checks

/-- What is checked of a token that was presented: the account, the times, the signature. -/
inductive Compact.Refused (leeway now : Int) (token : Compact) : Refusal → Prop
  | algorithm (h : (Json.member? "alg" token.header).bind Json.text? ≠ some ("EdDSA" : Text)) :
      Refused leeway now token .wrongAlgorithm
  | account {r : Refusal}
      (halgorithm : (Json.member? "alg" token.header).bind Json.text? = some ("EdDSA" : Text))
      (h : claimedAccount token = .error r) : Refused leeway now token r
  | times {r : Refusal} {account : Bytes}
      (halgorithm : (Json.member? "alg" token.header).bind Json.text? = some ("EdDSA" : Text))
      (haccount : claimedAccount token = .ok account) (h : claimedTimes token = .error r) :
      Refused leeway now token r
  | clock {r : Refusal} {account : Bytes} {issued expiry : Int}
      (halgorithm : (Json.member? "alg" token.header).bind Json.text? = some ("EdDSA" : Text))
      (haccount : claimedAccount token = .ok account)
      (htimes : claimedTimes token = .ok (issued, expiry))
      (h : checkTimes leeway now issued expiry = .error r) : Refused leeway now token r
  | signature {r : Refusal} {account : Bytes} {issued expiry : Int}
      (halgorithm : (Json.member? "alg" token.header).bind Json.text? = some ("EdDSA" : Text))
      (haccount : claimedAccount token = .ok account)
      (htimes : claimedTimes token = .ok (issued, expiry))
      (hclock : checkTimes leeway now issued expiry = .ok ())
      (h : checkSignature account (Utf8.encode token.signingInput) token.signature = .error r) :
      Refused leeway now token r

/-- A call is not verified if it presents no token, or one that a check refuses. -/
theorem verify_eq_error_iff {leeway now : Int} {authorization : Option Text} {r : Refusal} :
    verify leeway now authorization = .error r ↔
      presented authorization = .error r ∨
        ∃ token, presented authorization = .ok token ∧ token.Refused leeway now r := by
  constructor
  · intro h
    rcases Attempt.bind_eq_error_iff.mp h with hbearer | ⟨text, hbearer, h⟩
    · exact .inl (Attempt.bind_eq_error_iff.mpr (.inl hbearer))
    rcases Attempt.bind_eq_error_iff.mp h with hparse | ⟨token, hparse, h⟩
    · exact .inl (Attempt.bind_eq_error_iff.mpr (.inr ⟨text, hbearer, hparse⟩))
    refine .inr ⟨token, Attempt.bind_eq_ok_iff.mpr ⟨text, hbearer, hparse⟩, ?_⟩
    split at h
    · next halgorithm =>
        cases h
        exact .algorithm halgorithm
    · next halgorithm =>
        have halgorithm := not_ne_iff.mp halgorithm
        rcases Attempt.bind_eq_error_iff.mp h with haccount | ⟨account, haccount, h⟩
        · exact .account halgorithm haccount
        rcases Attempt.bind_eq_error_iff.mp h with htimes | ⟨⟨issued, expiry⟩, htimes, h⟩
        · exact .times halgorithm haccount htimes
        rcases Attempt.bind_eq_error_iff.mp h with hclock | ⟨⟨⟩, hclock, h⟩
        · exact .clock halgorithm haccount htimes hclock
        rcases Attempt.bind_eq_error_iff.mp h with hsignature | ⟨⟨⟩, -, h⟩
        · exact .signature halgorithm haccount htimes hclock hsignature
        · cases h
  · rintro (h | ⟨token, h, hrefused⟩)
    · rcases Attempt.bind_eq_error_iff.mp h with hbearer | ⟨text, hbearer, hparse⟩
      · exact Attempt.bind_eq_error_iff.mpr (.inl hbearer)
      · refine Attempt.bind_eq_error_iff.mpr (.inr ⟨text, hbearer, ?_⟩)
        exact Attempt.bind_eq_error_iff.mpr (.inl hparse)
    · obtain ⟨text, hbearer, hparse⟩ := Attempt.bind_eq_ok_iff.mp h
      simp only [verify, hbearer, hparse, Attempt.ok_bind]
      cases hrefused with
      | algorithm h => rw [if_pos h]; rfl
      | account halgorithm h =>
          rw [if_neg (not_ne_iff.mpr halgorithm)]
          exact Attempt.bind_eq_error_iff.mpr (.inl h)
      | times halgorithm haccount h =>
          rw [if_neg (not_ne_iff.mpr halgorithm)]
          simp only [haccount, Attempt.ok_bind]
          exact Attempt.bind_eq_error_iff.mpr (.inl h)
      | clock halgorithm haccount htimes h =>
          rw [if_neg (not_ne_iff.mpr halgorithm)]
          simp only [haccount, htimes, Attempt.ok_bind]
          exact Attempt.bind_eq_error_iff.mpr (.inl h)
      | signature halgorithm haccount htimes hclock h =>
          rw [if_neg (not_ne_iff.mpr halgorithm)]
          simp only [haccount, htimes, hclock, Attempt.ok_bind]
          exact Attempt.bind_eq_error_iff.mpr (.inl h)

end SealedPost.Token
