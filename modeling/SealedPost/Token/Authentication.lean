import SealedPost.Crypto.Ed25519
import SealedPost.Settings
import SealedPost.Token.Compact
import SealedPost.Token.Replay

/-! # Proving an account

A request proves its account with a token that the account signed. The token is taken
apart, its account and times are checked, then its signature, and only then is its
identifier used up; the action is looked at last. -/

namespace SealedPost.Token

open Crypto

/-- What a token with a good signature claims. -/
structure Claim where
  account : Bytes
  id : Text
  expiry : Int
  action : Option Text
deriving DecidableEq

/-- Whether a token is valid at a time, with a leeway for clocks that differ. -/
def checkTimes (leeway now issued expiry : Int) : Except Refusal Unit :=
  if issued = 0 ∨ expiry = 0 then .error .missingTimes
  else if now + leeway < issued then .error .issuedInFuture
  else if expiry < now - leeway then .error .expired
  else .ok ()

/-- Whether an account signed some bytes. -/
def checkSignature (account data signature : Bytes) : Except Refusal Unit :=
  if Ed25519.verify account data signature then .ok () else .error .badSignature

/-- The account that header and payload agree on. -/
def claimedAccount (token : Compact) : Except Refusal Bytes :=
  let keyId := accountText "kid" token.header
  let subject := accountText "sub" token.payload
  if keyId.isEmpty || subject.isEmpty then .error .missingAccount
  else if keyId ≠ subject then .error .accountMismatch
  else account keyId

/-- The times of a token: when it was issued and when it expires. -/
def claimedTimes (token : Compact) : Except Refusal (Int × Int) :=
  match time? "iat" token.payload, time? "exp" token.payload with
  | some issued, some expiry => .ok (issued, expiry)
  | _, _ => .error .invalidTimes

/-- Checks everything about a token that does not depend on other tokens. -/
def verify (leeway now : Int) (authorization : Option Text) : Except Refusal Claim := do
  let text ← bearer authorization
  let token ← Compact.parse text
  if (Json.member? "alg" token.header).bind Json.text? ≠ some ("EdDSA" : Text) then
    throw .wrongAlgorithm
  let account ← claimedAccount token
  let (issued, expiry) ← claimedTimes token
  checkTimes leeway now issued expiry
  checkSignature account (Utf8.encode token.signingInput) token.signature
  pure
    { account := account, id := idText token.payload, expiry := expiry,
      action := (Json.member? "act" token.payload).bind Json.text? }

/-- The actions that a token for messages may name. -/
def messageActions : List Text := ["send", "messages.send"]

/-- Whether a claim is for sending messages. -/
def checkAction (c : Claim) : Except Refusal Bytes :=
  match c.action with
  | some action => if messageActions.any (· = action) then .ok c.account else .error .wrongAction
  | none => .error .wrongAction

/-- The account of a request, and the cache after it. Only a token with a good signature
touches the cache; its identifier is used up even if its action is wrong. -/
def authenticate (settings : Settings) (now : Int) (cache : Cache)
    (authorization : Option Text) : Except Refusal Bytes × Cache :=
  match verify settings.leeway now authorization with
  | .error refusal => (.error refusal, cache)
  | .ok claim =>
    match cache.take settings.idLifetime claim.id now claim.expiry with
    | (.error refusal, cache) => (.error refusal, cache)
    | (.ok (), cache) => (checkAction claim, cache)

end SealedPost.Token
