import SealedPost.Crypto.Poly1305
import SealedPost.Crypto.Salsa20

/-! # Authenticated encryption under a shared key

A sealed text is a tag of sixteen bytes followed by the plaintext masked with a stream.
The first 32 bytes of the stream are the key of the tag. Main statements: opening what
was sealed gives the plaintext, and whatever opens is the sealing of what it opens to. -/

namespace SealedPost.Crypto.SecretBox

/-- The length of the tag. -/
def tagSize : Nat := 16

/-- The key of the tag. -/
def tagKey (key nonce : Bytes) : Bytes := Salsa20.extendedStream key nonce 32

/-- The mask for a body of a given length. -/
def mask (key nonce : Bytes) (length : Nat) : Bytes :=
  (Salsa20.extendedStream key nonce (32 + length)).drop 32

theorem length_mask (key nonce : Bytes) (length : Nat) :
    (mask key nonce length).length = length := by
  simp [mask, Salsa20.extendedStream, Salsa20.length_stream]

/-- Masks a body; masking twice gives the body back. -/
def masked (key nonce body : Bytes) : Bytes := Bytes.xor body (mask key nonce body.length)

/-- The sealed text of a plaintext. -/
def encrypt (key nonce plaintext : Bytes) : Bytes :=
  let body := masked key nonce plaintext
  Poly1305.tag (tagKey key nonce) body ++ body

/-- The plaintext of a sealed text whose tag is right. -/
def decrypt? (key nonce sealed : Bytes) : Option Bytes :=
  if sealed.length < tagSize then none
  else
    let body := sealed.drop tagSize
    if sealed.take tagSize = Poly1305.tag (tagKey key nonce) body then
      some (masked key nonce body)
    else none

theorem xor_xor {a b : Bytes} (h : a.length = b.length) : Bytes.xor (Bytes.xor a b) b = a := by
  induction a generalizing b with
  | nil => simp [Bytes.xor]
  | cons x a ih =>
    cases b with
    | nil => simp at h
    | cons y b =>
      have hab : a.length = b.length := by simpa using h
      have ih' := ih hab
      simp only [Bytes.xor] at ih'
      have hxy : x ^^^ y ^^^ y = x := by rw [UInt8.xor_assoc, UInt8.xor_self, UInt8.xor_zero]
      simp [Bytes.xor, ih', hxy]

theorem length_masked (key nonce body : Bytes) :
    (masked key nonce body).length = body.length := by
  simp [masked, Bytes.xor, length_mask]

theorem masked_masked (key nonce body : Bytes) :
    masked key nonce (masked key nonce body) = body := by
  rw [masked, length_masked, masked]
  exact xor_xor (length_mask key nonce body.length).symm

theorem length_encrypt (key nonce plaintext : Bytes) :
    (encrypt key nonce plaintext).length = plaintext.length + 16 := by
  simp [encrypt, Poly1305.length_tag, length_masked]
  omega

/-- A sealed text opens to a plaintext exactly if it is the sealing of that plaintext. -/
theorem decrypt?_eq_some_iff {key nonce sealed plaintext : Bytes} :
    decrypt? key nonce sealed = some plaintext ↔ sealed = encrypt key nonce plaintext := by
  constructor
  · intro h
    rw [decrypt?] at h
    split at h
    · simp at h
    · dsimp only at h
      split at h
      · rename_i htag
        cases h
        rw [encrypt, masked_masked, ← htag, List.take_append_drop]
      · simp at h
  · rintro rfl
    have hlen : ¬ (encrypt key nonce plaintext).length < tagSize := by
      rw [length_encrypt, tagSize]; omega
    have htag := Poly1305.length_tag (tagKey key nonce) (masked key nonce plaintext)
    have htake : (encrypt key nonce plaintext).take tagSize =
        Poly1305.tag (tagKey key nonce) (masked key nonce plaintext) := by
      rw [encrypt, tagSize, List.take_append_of_le_length (by omega),
        List.take_of_length_le (by omega)]
    have hdrop : (encrypt key nonce plaintext).drop tagSize = masked key nonce plaintext := by
      rw [encrypt, tagSize, List.drop_append_of_le_length (by omega),
        List.drop_of_length_le (by omega), List.nil_append]
    simp only [decrypt?, hlen, if_false, htake, hdrop, if_true, masked_masked]

end SealedPost.Crypto.SecretBox
