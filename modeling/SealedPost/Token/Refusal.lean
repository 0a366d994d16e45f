import SealedPost.Text.Basic

/-! # Refusals of a token

Every way in which a request can fail to prove its account, with the status that answers
it. A malformed token is a bad request; a well-formed one that does not convince is
unauthorized. -/

namespace SealedPost.Token

/-- Why a token is refused. -/
inductive Refusal where
  | missingToken
  | malformedToken
  | wrongAlgorithm
  | missingAccount
  | accountMismatch
  | invalidAccount
  | invalidTimes
  | missingTimes
  | issuedInFuture
  | expired
  | badSignature
  | missingId
  | replayed
  | wrongAction
deriving DecidableEq

/-- The status of each refusal: 400 or 401. -/
def Refusal.status : Refusal → Nat
  | missingToken => 401
  | malformedToken => 400
  | wrongAlgorithm => 400
  | missingAccount => 400
  | accountMismatch => 401
  | invalidAccount => 400
  | invalidTimes => 400
  | missingTimes => 400
  | issuedInFuture => 401
  | expired => 401
  | badSignature => 401
  | missingId => 400
  | replayed => 401
  | wrongAction => 400

/-- The wording of each refusal. -/
def Refusal.message : Refusal → Text
  | missingToken => "Missing Bearer token"
  | malformedToken => "Invalid JWS format"
  | wrongAlgorithm => "alg must be EdDSA"
  | missingAccount => "Missing account"
  | accountMismatch => "Account mismatch"
  | invalidAccount => "Invalid account id"
  | invalidTimes => "Invalid iat/exp"
  | missingTimes => "Missing iat/exp"
  | issuedInFuture => "iat in the future"
  | expired => "Token expired"
  | badSignature => "Bad JWS signature"
  | missingId => "Missing jti"
  | replayed => "Replay detected"
  | wrongAction => "Invalid act for messages"

theorem Refusal.status_eq_400_or_401 (r : Refusal) : r.status = 400 ∨ r.status = 401 := by
  cases r <;> decide

end SealedPost.Token
