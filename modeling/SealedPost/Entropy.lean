import SealedPost.Key

/-! # Randomness

A source of randomness is a stream of bytes from which draws are taken one after the
other. A stream that has run out goes on with zeros. -/

namespace SealedPost

/-- The bytes still to be drawn. -/
structure Entropy where
  bytes : Bytes

namespace Entropy

/-- The next bytes, filled up with zeros to the number asked for. -/
def next (e : Entropy) (count : Nat) : Bytes :=
  e.bytes.take count ++ List.replicate (count - e.bytes.length) 0

theorem length_next (e : Entropy) (count : Nat) : (e.next count).length = count := by
  simp [next]
  omega

/-- The source after a draw. -/
def after (e : Entropy) (count : Nat) : Entropy := ⟨e.bytes.drop count⟩

/-- Draws a nonce. -/
def nonce (e : Entropy) : Nonce × Entropy := (⟨e.next 24, e.length_next 24⟩, e.after 24)

/-- Draws a secret key. -/
def secretKey (e : Entropy) : SecretKey × Entropy :=
  (⟨e.next 32, e.length_next 32⟩, e.after 32)

end Entropy
end SealedPost
