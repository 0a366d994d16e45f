import SealedPost.Crypto.Curve25519
import SealedPost.Text.Quoted

/-! # Nonces and keys

Nonces and keys are byte strings of a fixed length, which their types record. What comes
from outside is material of an open kind: it has to be taken as a nonce or a key before
it can be used, and a refusal keeps the material that was refused. -/

namespace SealedPost

/-- A nonce: 24 bytes. -/
@[ext] structure Nonce where
  bytes : Bytes
  length_bytes : bytes.length = 24
deriving DecidableEq

/-- A public key: 32 bytes. -/
@[ext] structure PublicKey where
  bytes : Bytes
  length_bytes : bytes.length = 32
deriving DecidableEq

/-- A secret key: 32 bytes. -/
@[ext] structure SecretKey where
  bytes : Bytes
  length_bytes : bytes.length = 32
deriving DecidableEq

/-- The public key that belongs to a secret key. -/
def SecretKey.publicKey (own : SecretKey) : PublicKey :=
  ⟨Crypto.X25519.publicKey own.bytes, Crypto.X25519.length_publicKey own.bytes⟩

/-- Bytes of the right length as a nonce. -/
def Nonce.ofBytes? (bytes : Bytes) : Option Nonce :=
  if h : bytes.length = 24 then some ⟨bytes, h⟩ else none

/-- Bytes of the right length as a public key. -/
def PublicKey.ofBytes? (bytes : Bytes) : Option PublicKey :=
  if h : bytes.length = 32 then some ⟨bytes, h⟩ else none

/-- Bytes of the right length as a secret key. -/
def SecretKey.ofBytes? (bytes : Bytes) : Option SecretKey :=
  if h : bytes.length = 32 then some ⟨bytes, h⟩ else none

theorem Nonce.ofBytes?_bytes (n : Nonce) : Nonce.ofBytes? n.bytes = some n := by
  simp [Nonce.ofBytes?, n.length_bytes]

theorem PublicKey.ofBytes?_bytes (k : PublicKey) : PublicKey.ofBytes? k.bytes = some k := by
  simp [PublicKey.ofBytes?, k.length_bytes]

theorem SecretKey.ofBytes?_bytes (k : SecretKey) : SecretKey.ofBytes? k.bytes = some k := by
  simp [SecretKey.ofBytes?, k.length_bytes]

theorem Nonce.ofBytes?_eq_some_iff {bytes : Bytes} {n : Nonce} :
    Nonce.ofBytes? bytes = some n ↔ bytes = n.bytes := by
  constructor
  · intro h
    unfold Nonce.ofBytes? at h
    split at h <;> cases h
    rfl
  · rintro rfl
    exact n.ofBytes?_bytes

theorem PublicKey.ofBytes?_eq_some_iff {bytes : Bytes} {k : PublicKey} :
    PublicKey.ofBytes? bytes = some k ↔ bytes = k.bytes := by
  constructor
  · intro h
    unfold PublicKey.ofBytes? at h
    split at h <;> cases h
    rfl
  · rintro rfl
    exact k.ofBytes?_bytes

theorem SecretKey.ofBytes?_eq_some_iff {bytes : Bytes} {k : SecretKey} :
    SecretKey.ofBytes? bytes = some k ↔ bytes = k.bytes := by
  constructor
  · intro h
    unfold SecretKey.ofBytes? at h
    split at h <;> cases h
    rfl
  · rintro rfl
    exact k.ofBytes?_bytes

/-- What a caller may hand in where a nonce, a key or data is wanted. -/
inductive Material where
  | nothing
  | bytes (bytes : Bytes)
  | buffer (bytes : Bytes)
  | text (text : Text)
  | number (value : Int)
  | publicKey (key : PublicKey)
  | secretKey (key : SecretKey)
deriving DecidableEq

/-- Why a cryptographic operation is refused. -/
inductive BoxFault where
  | invalidNonce (material : Material)
  | invalidPublicKey (material : Material)
  | invalidSecretKey
  | agreementRefused
  | decryptionFailed (peer : Bytes)
deriving DecidableEq

namespace Material

/-- The bytes of material that is raw. -/
def raw? : Material → Option Bytes
  | bytes b => some b
  | buffer b => some b
  | _ => none

/-- How material is shown in a message. -/
def shown : Material → Text
  | nothing => "None"
  | bytes b => Bytes.quoted b
  | buffer b => Bytes.quotedBuffer b
  | text t => Text.quoted t
  | number n => Text.ofInt n
  | publicKey key => Bytes.quoted key.bytes
  | secretKey _ => "secret key"

/-- Material as a nonce: raw bytes of the right length. -/
def nonce (m : Material) : Except BoxFault Nonce :=
  match m.raw?.bind Nonce.ofBytes? with
  | some n => .ok n
  | none => .error (.invalidNonce m)

/-- Material as a public key: one that is ready, or raw bytes of the right length. -/
def asPublicKey : Material → Except BoxFault PublicKey
  | publicKey key => .ok key
  | m =>
    match m.raw?.bind PublicKey.ofBytes? with
    | some key => .ok key
    | none => .error (.invalidPublicKey m)

/-- Material as a secret key: one that is ready, or raw bytes of the right length. -/
def asSecretKey : Material → Except BoxFault SecretKey
  | secretKey key => .ok key
  | m =>
    match m.raw?.bind SecretKey.ofBytes? with
    | some key => .ok key
    | none => .error .invalidSecretKey

theorem nonce_bytes (n : Nonce) : (bytes n.bytes).nonce = .ok n := by
  simp [nonce, raw?, Nonce.ofBytes?_bytes]

theorem asPublicKey_bytes (k : PublicKey) : (bytes k.bytes).asPublicKey = .ok k := by
  simp [asPublicKey, raw?, PublicKey.ofBytes?_bytes]

/-- Raw bytes are a nonce exactly if they are the bytes of one. -/
theorem nonce_eq_ok_iff {b : Bytes} {n : Nonce} : (bytes b).nonce = .ok n ↔ b = n.bytes := by
  rw [← Nonce.ofBytes?_eq_some_iff]
  simp only [nonce, raw?, Option.bind_some]
  cases Nonce.ofBytes? b <;> simp

/-- Raw bytes are a public key exactly if they are the bytes of one. -/
theorem asPublicKey_eq_ok_iff {b : Bytes} {k : PublicKey} :
    (bytes b).asPublicKey = .ok k ↔ b = k.bytes := by
  rw [← PublicKey.ofBytes?_eq_some_iff]
  simp only [asPublicKey, raw?, Option.bind_some]
  cases PublicKey.ofBytes? b <;> simp

/-- Raw bytes are a secret key exactly if they are the bytes of one. -/
theorem asSecretKey_eq_ok_iff {b : Bytes} {k : SecretKey} :
    (bytes b).asSecretKey = .ok k ↔ b = k.bytes := by
  rw [← SecretKey.ofBytes?_eq_some_iff]
  simp only [asSecretKey, raw?, Option.bind_some]
  cases SecretKey.ofBytes? b <;> simp

end Material

/-- The wording of each refusal. A secret key is never shown. -/
def BoxFault.message : BoxFault → Text
  | invalidNonce m => "Could not parse nonce " ++ m.shown
  | invalidPublicKey m => "Could not parse pubkey " ++ m.shown
  | invalidSecretKey => "Could not parse secret key"
  | agreementRefused => "Unexpected library error"
  | decryptionFailed peer => "Could not decrypt data for " ++ Bytes.toHex peer

/-- Holds for the refusals that are foreseen: all but a refused key agreement. -/
def BoxFault.isDeclared : BoxFault → Bool
  | agreementRefused => false
  | _ => true

end SealedPost
