import SealedPost.Crypto.Blake2s
import SealedPost.Key
import SealedPost.Message

/-! # The commitment to a message and its envelope

Each field is hashed together with the secret nonce; recipients and entries are hashed as
lists, each list closed by the secret nonce; the seven digests are hashed together. The
kinds of entries are not bound. Every string that goes into the digest is named here, so
that two commitments can be compared string by string. -/

namespace SealedPost.Commitment

open Crypto

/-- What a commitment is made to. -/
structure Subject where
  origin : Bytes
  publicNonce : Bytes
  sender : Bytes
  relay : Bytes
  secretNonce : Nonce
  recipients : List Bytes
  message : Message

/-- The digest of data followed by a nonce. -/
def saltedDigest (data nonce : Bytes) : Bytes := Blake2s.digest (data ++ nonce)

/-- Salted digests of a list of byte strings, closed by the nonce itself. -/
def listInput (items : List Bytes) (nonce : Bytes) : Bytes :=
  items.flatMap (saltedDigest · nonce) ++ nonce

/-- Keys and values of the entries, in order. -/
def entryFields (m : Message) : List Bytes := m.entries.flatMap fun e => [e.key, e.value]

/-- The fields that are hashed one by one, in order. -/
def Subject.fields (s : Subject) : List Bytes :=
  [s.origin, s.publicNonce, s.secretNonce.bytes, s.relay, s.sender]

/-- The string whose digest is the commitment. -/
def Subject.rootInput (s : Subject) : Bytes :=
  let nonce := s.secretNonce.bytes
  s.fields.flatMap (saltedDigest · nonce)
    ++ Blake2s.digest (listInput s.recipients nonce)
    ++ Blake2s.digest (listInput (entryFields s.message) nonce)

/-- The commitment. -/
def Subject.digest (s : Subject) : Bytes := Blake2s.digest s.rootInput

/-- All strings that are hashed on the way. -/
def Subject.hashed (s : Subject) : List Bytes :=
  let nonce := s.secretNonce.bytes
  (s.fields ++ s.recipients ++ entryFields s.message).map (· ++ nonce)
    ++ [listInput s.recipients nonce, listInput (entryFields s.message) nonce, s.rootInput]

end SealedPost.Commitment
