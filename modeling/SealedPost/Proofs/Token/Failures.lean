import SealedPost.Proofs.Json.Integers
import SealedPost.Proofs.Token.Acceptance
import SealedPost.Proofs.Token.Refusals

/-!
# No failure escapes the check of a token

Most operations on what a caller sends are partial: cutting a text, decoding base64, reading a
document, showing a value, making a number of it, checking a signature. Each fails in a class of
its own, and the clauses around them turn only the classes that they name into refusals. Here the
check is taken in these steps, with every failure in its class. Whatever is presented, the steps
come to what the check comes to, so that nothing but a refusal is ever raised.
-/

namespace SealedPost.Token

open Crypto

/-- How a step can fail. A refusal is an answer to the caller; what is left is the failure of an
operation and must not get out. -/
inductive Failure where
  | refused (refusal : Refusal)
  | badValue
  | badKind
  | outOfRange
  | noSuchItem
  | badSignature
deriving DecidableEq

/-- A step with a clause around it that makes one refusal of the failures it names, and lets the
others pass. -/
def Failure.rescue {α : Type} (caught : List Failure) (refusal : Refusal) (x : Except Failure α) :
    Except Failure α :=
  x.mapError fun failure => if failure ∈ caught then .refused refusal else failure

namespace Stepwise

open Failure (rescue)

/-- What follows the first space; without a space there is no second piece. -/
def afterSpace (t : Text) : Except Failure Text :=
  match Text.cutAt (.char ' ') t with
  | some (_, rest) => .ok rest
  | none => .error .noSuchItem

/-- The token in the value of an authorization header. -/
def bearer (authorization : Option Text) : Except Failure Text :=
  let word : Text := "bearer "
  match authorization with
  | none => .error (.refused .missingToken)
  | some t =>
    if (t.take word.length).map CodePoint.asciiLower = word then (afterSpace t).map Text.trim
    else .error (.refused .missingToken)

/-- Three pieces by name; any other number of them is a bad value. -/
def three : List Text → Except Failure (Text × Text × Text)
  | [a, b, c] => .ok (a, b, c)
  | _ => .error .badValue

/-- The bytes of a segment; a text that is not base64 is a bad value. -/
def bytesOf (segment : Text) : Except Failure Bytes :=
  (Base64.decodeUrl segment).mapError fun _ => .badValue

/-- The document in a segment; bytes that hold none are a bad value, undecodable ones and those
with a long integer too. -/
def document (segment : Text) : Except Failure Json := do
  let bytes ← bytesOf segment
  (Json.readDocument bytes).mapError fun _ => .badValue

/-- A text in bytes of ASCII; any other character makes it a bad value. -/
def ascii (t : Text) : Except Failure Bytes :=
  if t.all CodePoint.isAscii then .ok (t.map fun c => UInt8.ofNat c.toNat) else .error .badValue

/-- The header, the payload, the signature and the signed bytes of a token. -/
def segments (t : Text) : Except Failure (Json × Json × Bytes × Bytes) := do
  let (header, payload, signature) ← three (Text.splitOn (.char '.') t)
  let headerValue ← document header
  let payloadValue ← document payload
  let signatureBytes ← bytesOf signature
  let signed ← ascii (joinSegments header payload)
  pure (headerValue, payloadValue, signatureBytes, signed)

/-- The parts of a token whose header and payload are objects. -/
def objects : Json × Json × Bytes × Bytes →
    Except Failure (List (Text × Json) × List (Text × Json) × Bytes × Bytes)
  | (.obj header, .obj payload, signature, signed) => .ok (header, payload, signature, signed)
  | _ => .error (.refused .malformedToken)

/-- Takes a token apart: its parts, and the bytes that its signature covers. -/
def parse (t : Text) :
    Except Failure (List (Text × Json) × List (Text × Json) × Bytes × Bytes) := do
  let result ← rescue [.badValue] .malformedToken (segments t)
  objects result

/-- The text of a value; an integer in it that has too many digits to be shown is a bad value. -/
def printed (v : Json) : Except Failure Text :=
  if v.DigitsWithin Text.digitLimit then .ok v.asText else .error .badValue

/-- The trimmed text of a member that names an account; empty if there is none. -/
def name (key : Text) (members : List (Text × Json)) : Except Failure Text :=
  match Json.member? key members with
  | none => .ok []
  | some v => if v.isEmptyValue then .ok [] else (printed v).map Text.trim

/-- The account that header and payload agree on. -/
def account (header payload : List (Text × Json)) : Except Failure Bytes := do
  let keyId ← name "kid" header
  let subject ← name "sub" payload
  if keyId.isEmpty || subject.isEmpty then throw (.refused .missingAccount)
  if keyId ≠ subject then throw (.refused .accountMismatch)
  let bytes ← rescue [.badValue] .invalidAccount (bytesOf (Text.trim keyId))
  if bytes.length = 32 then pure bytes else throw (.refused .invalidAccount)

/-- A value as an integer: one of a kind without numbers is of a bad kind, an infinity is out of
range, and any other that is no number is a bad value. -/
def integer (v : Json) : Except Failure Int :=
  match v with
  | .null | .arr _ | .obj _ => .error .badKind
  | .float (.infinite _) => .error .outOfRange
  | v =>
    match v.toInt? with
    | some n => .ok n
    | none => .error .badValue

/-- The time in a member; a missing one counts as zero. -/
def time (key : Text) (members : List (Text × Json)) : Except Failure Int :=
  match Json.member? key members with
  | none => .ok 0
  | some v => integer v

/-- The times of a payload: when its token was issued and when it expires. -/
def times (payload : List (Text × Json)) : Except Failure (Int × Int) :=
  rescue [.badKind, .badValue, .outOfRange] .invalidTimes do
    let issued ← time "iat" payload
    let expiry ← time "exp" payload
    pure (issued, expiry)

/-- Opens a signed text: a key or a signature of another length is a bad value. -/
def openSigned (key data signature : Bytes) : Except Failure Unit :=
  if key.length ≠ 32 then .error .badValue
  else if signature.length ≠ 64 then .error .badValue
  else if Ed25519.verify key data signature then .ok ()
  else .error .badSignature

/-- Checks the signature of an account. -/
def signature (account data signature : Bytes) : Except Failure Unit :=
  rescue [.badSignature, .badValue] .badSignature (openSigned account data signature)

/-- The text of the identifier of a token; a missing one is empty. -/
def identifier (payload : List (Text × Json)) : Except Failure Text :=
  match Json.member? "jti" payload with
  | none => .ok []
  | some v => printed v

/-- Checks everything about a token that does not depend on other tokens. -/
def verify (leeway now : Int) (authorization : Option Text) : Except Failure Claim := do
  let text ← bearer authorization
  let (header, payload, signatureBytes, signed) ← parse text
  if (Json.member? "alg" header).bind Json.text? ≠ some ("EdDSA" : Text) then
    throw (.refused .wrongAlgorithm)
  let account ← account header payload
  let (issued, expiry) ← times payload
  (checkTimes leeway now issued expiry).mapError .refused
  signature account signed signatureBytes
  let id ← identifier payload
  pure
    { account := account, id := id, expiry := expiry,
      action := (Json.member? "act" payload).bind Json.text? }

/-- The account of a request or the failure of a step, and the cache after it. -/
def authenticate (settings : Settings) (now : Int) (cache : Cache)
    (authorization : Option Text) : Except Failure Bytes × Cache :=
  match verify settings.leeway now authorization with
  | .error failure => (.error failure, cache)
  | .ok claim =>
    match cache.take settings.idLifetime claim.id now claim.expiry with
    | (.error refusal, cache) => (.error (.refused refusal), cache)
    | (.ok (), cache) => ((checkAction claim).mapError .refused, cache)

/-- A clause that names every failure of its step makes one refusal of them. -/
theorem rescue_eq {α : Type} {caught : List Failure} {refusal : Refusal} {x : Except Failure α}
    {y : Except Refusal α} (hcaught : ∀ failure, x = .error failure → failure ∈ caught)
    (hok : ∀ a, x = .ok a ↔ y = .ok a) (hrefusal : ∀ r, y = .error r → r = refusal) :
    rescue caught refusal x = y.mapError .refused := by
  cases x with
  | ok a =>
      rw [(hok a).mp rfl]
      rfl
  | error failure =>
      cases y with
      | ok a => cases (hok a).mpr rfl
      | error r =>
          rw [hrefusal r rfl]
          exact congrArg Except.error (if_pos (hcaught failure rfl))

theorem asciiLower_eq_space_iff {c : CodePoint} :
    c.asciiLower = .char ' ' ↔ c = .char ' ' := by
  constructor
  · intro h
    cases c with
    | surrogate unit => cases h
    | char c =>
        have h := CodePoint.char.inj h
        split at h
        · next hletter =>
            have hlow : 65 ≤ c.toNat := hletter.1
            have hhigh : c.toNat < 91 := Nat.lt_succ_of_le hletter.2
            have hletters : ∀ n < 91, 65 ≤ n → Char.ofNat (n + 32) ≠ ' ' := by decide
            exact absurd h (hletters c.toNat hhigh hlow)
        · rw [h]
  · rintro rfl
    decide

/-- The word for bearers ends with the first space of a header that starts with it. -/
theorem cutAt_word {word : Text} (h : word.map CodePoint.asciiLower = Text.ofString "bearer ")
    (rest : Text) : ∃ before, Text.cutAt (.char ' ') (word ++ rest) = some (before, rest) := by
  have hword : Text.ofString "bearer " = Text.ofString "bearer" ++ [.char ' '] := by decide
  rw [hword] at h
  obtain ⟨letters, last, rfl, hletters, hlast⟩ := List.map_eq_append_iff.mp h
  obtain ⟨c, rfl, hc⟩ := List.map_eq_singleton_iff.mp hlast
  obtain rfl := asciiLower_eq_space_iff.mp hc
  have hnone : CodePoint.char ' ' ∉ letters := by
    intro hmem
    have hspace : CodePoint.char ' ' ∈ Text.ofString "bearer" :=
      hletters ▸ List.mem_map.mpr ⟨_, hmem, asciiLower_eq_space_iff.mpr rfl⟩
    revert hspace
    decide
  refine ⟨letters, ?_⟩
  rw [List.append_assoc]
  exact Text.cutAt_append_cons rest hnone

theorem bearer_eq (authorization : Option Text) :
    bearer authorization = (Token.bearer authorization).mapError .refused := by
  cases authorization with
  | none => rfl
  | some t =>
      simp only [bearer, Token.bearer]
      split
      · next hword =>
          obtain ⟨before, hcut⟩ :=
            cutAt_word hword (t.drop (Text.ofString "bearer ").length)
          rw [List.take_append_drop] at hcut
          rw [afterSpace, hcut]
          rfl
      · rfl

section Segments

variable {t : Text} {failure : Failure}

theorem bytesOf_eq_error (h : bytesOf t = .error failure) : failure = .badValue := by
  obtain ⟨fault, -, rfl⟩ := Attempt.mapError_eq_error_iff.mp h
  rfl

theorem bytesOf_eq_ok_iff {bytes : Bytes} :
    bytesOf t = .ok bytes ↔ Base64.decodeUrl t = .ok bytes :=
  Attempt.mapError_eq_ok_iff

theorem document_eq_error (h : document t = .error failure) : failure = .badValue := by
  rcases Attempt.bind_eq_error_iff.mp h with hbytes | ⟨bytes, -, hread⟩
  · exact bytesOf_eq_error hbytes
  · obtain ⟨fault, -, rfl⟩ := Attempt.mapError_eq_error_iff.mp hread
    rfl

theorem document_eq_ok_iff {v : Json} :
    document t = .ok v ↔
      ∃ bytes, Base64.decodeUrl t = .ok bytes ∧ Json.readDocument bytes = .ok v := by
  simp only [document, Attempt.bind_eq_ok_iff, bytesOf_eq_ok_iff, Attempt.mapError_eq_ok_iff]

theorem three_eq_error {pieces : List Text} (h : three pieces = .error failure) :
    failure = .badValue := by
  unfold three at h
  split at h
  · cases h
  · cases h
    rfl

theorem three_eq_ok_iff {pieces : List Text} {a b c : Text} :
    three pieces = .ok (a, b, c) ↔ pieces = [a, b, c] := by
  unfold three
  split
  · simp
  · next hother =>
      refine ⟨nofun, ?_⟩
      intro h
      exact absurd h (hother a b c)

theorem ascii_eq_error (h : ascii t = .error failure) : failure = .badValue := by
  unfold ascii at h
  split at h
  · cases h
  · cases h
    rfl

/-- A text in ASCII has one byte for each character. -/
theorem ascii_eq_encode (h : t.all CodePoint.isAscii = true) : ascii t = .ok (Utf8.encode t) := by
  rw [ascii, if_pos h, Utf8.encode, List.map_eq_flatMap]
  refine congrArg Except.ok (List.flatMap_congr ?_)
  intro c hc
  have hascii : c.toNat < 0x80 := of_decide_eq_true (List.all_eq_true.mp h c hc)
  rw [Utf8.encodeOne]
  exact (if_pos hascii).symm

/-- What reads as base64 is written in ASCII. -/
theorem all_isAscii_of_decodeUrl {bytes : Bytes} (h : Base64.decodeUrl t = .ok bytes) :
    t.all CodePoint.isAscii = true := by
  unfold Base64.decodeUrl at h
  dsimp only at h
  split at h
  · next hascii =>
      rw [List.all_append, Bool.and_eq_true] at hascii
      exact hascii.1
  · cases h

theorem segments_eq_error (h : segments t = .error failure) : failure = .badValue := by
  rcases Attempt.bind_eq_error_iff.mp h with hthree | ⟨⟨header, payload, signature⟩, -, h⟩
  · exact three_eq_error hthree
  rcases Attempt.bind_eq_error_iff.mp h with hheader | ⟨headerValue, -, h⟩
  · exact document_eq_error hheader
  rcases Attempt.bind_eq_error_iff.mp h with hpayload | ⟨payloadValue, -, h⟩
  · exact document_eq_error hpayload
  rcases Attempt.bind_eq_error_iff.mp h with hsignature | ⟨signatureBytes, -, h⟩
  · exact bytesOf_eq_error hsignature
  rcases Attempt.bind_eq_error_iff.mp h with hsigned | ⟨signed, -, h⟩
  · exact ascii_eq_error hsigned
  · cases h

/-- The signed text is made of two segments that read as base64, so it is written in bytes. -/
theorem segments_eq_ok_iff {headerValue payloadValue : Json} {signatureBytes signed : Bytes} :
    segments t = .ok (headerValue, payloadValue, signatureBytes, signed) ↔
      ∃ header payload signature, Text.splitOn (.char '.') t = [header, payload, signature] ∧
        document header = .ok headerValue ∧ document payload = .ok payloadValue ∧
        Base64.decodeUrl signature = .ok signatureBytes ∧
        signed = Utf8.encode (joinSegments header payload) := by
  have hascii : ∀ header payload, document header = .ok headerValue →
      document payload = .ok payloadValue →
      ascii (joinSegments header payload) = .ok (Utf8.encode (joinSegments header payload)) := by
    intro header payload hheader hpayload
    obtain ⟨headerBytes, hheader, -⟩ := document_eq_ok_iff.mp hheader
    obtain ⟨payloadBytes, hpayload, -⟩ := document_eq_ok_iff.mp hpayload
    apply ascii_eq_encode
    have hpoint : (CodePoint.char '.').isAscii = true := by decide
    rw [joinSegments, List.all_append, List.all_cons, all_isAscii_of_decodeUrl hheader,
      all_isAscii_of_decodeUrl hpayload, hpoint]
    rfl
  simp only [segments, Attempt.bind_eq_ok_iff, Attempt.pure_eq_ok_iff, Prod.exists,
    three_eq_ok_iff, bytesOf_eq_ok_iff, Prod.mk.injEq]
  constructor
  · rintro ⟨header, payload, signature, hsplit, _, hheader, _, hpayload, _, hsignature, _,
      hsigned, rfl, rfl, rfl, rfl⟩
    rw [hascii header payload hheader hpayload] at hsigned
    exact ⟨header, payload, signature, hsplit, hheader, hpayload, hsignature,
      (Except.ok.inj hsigned).symm⟩
  · rintro ⟨header, payload, signature, hsplit, hheader, hpayload, hsignature, rfl⟩
    exact ⟨header, payload, signature, hsplit, _, hheader, _, hpayload, _, hsignature, _,
      hascii header payload hheader hpayload, rfl, rfl, rfl, rfl⟩

end Segments

/-- The parts of a token, and the bytes of the text that its signature covers. -/
def parts (token : Compact) : List (Text × Json) × List (Text × Json) × Bytes × Bytes :=
  (token.header, token.payload, token.signature, Utf8.encode token.signingInput)

theorem parse_eq (t : Text) :
    parse t = ((Compact.parse t).map parts).mapError .refused := by
  cases hparse : Compact.parse t with
  | ok token =>
      obtain ⟨header, payload, signature, hsplit, hheader, hpayload, hsignature, hinput⟩ :=
        Compact.parse_eq_ok_iff.mp hparse
      have hsegments : segments t = .ok (.obj token.header, .obj token.payload, token.signature,
          Utf8.encode token.signingInput) := by
        rw [segments_eq_ok_iff]
        exact ⟨header, payload, signature, hsplit,
          document_eq_ok_iff.mpr (readObject?_eq_some_iff.mp hheader),
          document_eq_ok_iff.mpr (readObject?_eq_some_iff.mp hpayload), hsignature,
          congrArg Utf8.encode hinput⟩
      rw [parse, hsegments]
      rfl
  | error r =>
      obtain rfl := Compact.parse_eq_error hparse
      cases hsegments : segments t with
      | error failure =>
          obtain rfl := segments_eq_error hsegments
          rw [parse, hsegments]
          rfl
      | ok result =>
          obtain ⟨headerValue, payloadValue, signatureBytes, signed⟩ := result
          obtain ⟨header, payload, signature, hsplit, hheader, hpayload, hsignature, -⟩ :=
            segments_eq_ok_iff.mp hsegments
          have hparts : parse t = objects (headerValue, payloadValue, signatureBytes, signed) := by
            rw [parse, hsegments]
            rfl
          rw [hparts]
          unfold objects
          split
          · next members members' _ _ heq =>
              -- Two objects and a signature would make a token, but there is none.
              obtain ⟨rfl, rfl, -⟩ := Prod.mk.inj heq
              have htoken : Compact.parse t = .ok
                  ⟨members, members', signatureBytes, joinSegments header payload⟩ :=
                Compact.parse_eq_ok_iff.mpr ⟨header, payload, signature, hsplit,
                  readObject?_eq_some_iff.mpr (document_eq_ok_iff.mp hheader),
                  readObject?_eq_some_iff.mpr (document_eq_ok_iff.mp hpayload), hsignature, rfl⟩
              cases hparse.symm.trans htoken
          · rfl

/-- The integers in header and payload of a token are short enough to be shown. -/
theorem digitsWithin_of_parse {t : Text} {token : Compact} (h : Compact.parse t = .ok token) :
    (Json.obj token.header).DigitsWithin Text.digitLimit ∧
      (Json.obj token.payload).DigitsWithin Text.digitLimit := by
  obtain ⟨header, payload, signature, -, hheader, hpayload, -, -⟩ :=
    Compact.parse_eq_ok_iff.mp h
  obtain ⟨headerBytes, -, hheader⟩ := readObject?_eq_some_iff.mp hheader
  obtain ⟨payloadBytes, -, hpayload⟩ := readObject?_eq_some_iff.mp hpayload
  exact ⟨Json.digitsWithin_of_readDocument hheader, Json.digitsWithin_of_readDocument hpayload⟩

section Members

variable {members header payload : List (Text × Json)}

theorem name_eq (h : (Json.obj members).DigitsWithin Text.digitLimit) (key : Text) :
    name key members = .ok (accountText key members) := by
  unfold name accountText
  cases hmember : Json.member? key members with
  | none => rfl
  | some v =>
      have hv : v.DigitsWithin Text.digitLimit := Json.digitsWithin_member? h hmember
      dsimp only
      split
      · rfl
      · rw [printed, if_pos hv]
        rfl

theorem identifier_eq (h : (Json.obj payload).DigitsWithin Text.digitLimit) :
    identifier payload = .ok (idText payload) := by
  unfold identifier idText
  cases hmember : Json.member? "jti" payload with
  | none => rfl
  | some v =>
      have hv : v.DigitsWithin Text.digitLimit := Json.digitsWithin_member? h hmember
      dsimp only
      rw [printed, if_pos hv]
      rfl

theorem account_eq {token : Compact}
    (hheader : (Json.obj token.header).DigitsWithin Text.digitLimit)
    (hpayload : (Json.obj token.payload).DigitsWithin Text.digitLimit) :
    account token.header token.payload = (claimedAccount token).mapError .refused := by
  simp only [account, claimedAccount, name_eq hheader, name_eq hpayload, Attempt.ok_bind]
  split
  · rfl
  · split
    · rfl
    · simp only [Token.account, bytesOf]
      cases Base64.decodeUrl (Text.trim (accountText "kid" token.header)) with
      | error fault => rfl
      | ok bytes =>
          simp only [Failure.rescue, Except.mapError, Attempt.ok_bind]
          split
          · rfl
          · rfl

theorem integer_eq_ok_iff {v : Json} {n : Int} : integer v = .ok n ↔ v.toInt? = some n := by
  unfold integer
  split
  · exact ⟨nofun, nofun⟩
  · exact ⟨nofun, nofun⟩
  · exact ⟨nofun, nofun⟩
  · exact ⟨nofun, nofun⟩
  · split
    · next m hm => rw [hm, Except.ok.injEq, Option.some.injEq]
    · next hnone => simp [hnone]

theorem integer_eq_error {v : Json} {failure : Failure} (h : integer v = .error failure) :
    failure ∈ [Failure.badKind, .badValue, .outOfRange] := by
  unfold integer at h
  split at h
  · cases h
    decide
  · cases h
    decide
  · cases h
    decide
  · cases h
    decide
  · split at h
    · cases h
    · cases h
      decide

theorem time_eq_ok_iff {key : Text} {n : Int} :
    time key payload = .ok n ↔ time? key payload = some n := by
  unfold time time?
  cases Json.member? key payload with
  | none => simp
  | some v => exact integer_eq_ok_iff

theorem time_eq_error {key : Text} {failure : Failure} (h : time key payload = .error failure) :
    failure ∈ [Failure.badKind, .badValue, .outOfRange] := by
  unfold time at h
  split at h
  · cases h
  · exact integer_eq_error h

theorem times_eq (token : Compact) :
    times token.payload = (claimedTimes token).mapError .refused := by
  apply rescue_eq
  · intro failure h
    rcases Attempt.bind_eq_error_iff.mp h with hissued | ⟨issued, -, h⟩
    · exact time_eq_error hissued
    rcases Attempt.bind_eq_error_iff.mp h with hexpiry | ⟨expiry, -, h⟩
    · exact time_eq_error hexpiry
    · cases h
  · rintro ⟨issued, expiry⟩
    simp only [Attempt.bind_eq_ok_iff, time_eq_ok_iff, Attempt.pure_eq_ok_iff, Prod.mk.injEq,
      claimedTimes_eq_ok_iff]
    constructor
    · rintro ⟨_, hissued, _, hexpiry, rfl, rfl⟩
      exact ⟨hissued, hexpiry⟩
    · rintro ⟨hissued, hexpiry⟩
      exact ⟨_, hissued, _, hexpiry, rfl, rfl⟩
  · intro r h
    exact (claimedTimes_eq_error_iff.mp h).1

end Members

theorem length_of_verify {account data signature : Bytes}
    (h : Ed25519.verify account data signature = true) :
    account.length = 32 ∧ signature.length = 64 := by
  by_contra hlengths
  have hrefused : Ed25519.verify account data signature = false := by
    unfold Ed25519.verify
    apply if_pos
    by_cases haccount : account.length = 32
    · exact .inr (.inl fun hsignature => hlengths ⟨haccount, hsignature⟩)
    · exact .inl haccount
  rw [hrefused] at h
  cases h

theorem openSigned_eq_ok_iff {key data signature : Bytes} :
    openSigned key data signature = .ok () ↔ Ed25519.verify key data signature = true := by
  unfold openSigned
  constructor
  · intro h
    split at h
    · cases h
    · split at h
      · cases h
      · split at h
        · next hverify => exact hverify
        · cases h
  · intro h
    obtain ⟨hkey, hsignature⟩ := length_of_verify h
    rw [if_neg (not_ne_iff.mpr hkey), if_neg (not_ne_iff.mpr hsignature), if_pos h]

theorem openSigned_eq_error {key data signature : Bytes} {failure : Failure}
    (h : openSigned key data signature = .error failure) :
    failure ∈ [Failure.badSignature, .badValue] := by
  unfold openSigned at h
  split at h
  · cases h
    decide
  · split at h
    · cases h
      decide
    · split at h
      · cases h
      · cases h
        decide

theorem signature_eq (account data signatureBytes : Bytes) :
    signature account data signatureBytes =
      (checkSignature account data signatureBytes).mapError .refused := by
  apply rescue_eq
  · intro failure h
    exact openSigned_eq_error h
  · rintro ⟨⟩
    rw [openSigned_eq_ok_iff, checkSignature_eq_ok_iff]
  · intro r h
    exact checkSignature_eq_error h

/-- The steps of the check come to what the check comes to, with its refusals as failures. -/
theorem verify_eq (leeway now : Int) (authorization : Option Text) :
    verify leeway now authorization =
      (Token.verify leeway now authorization).mapError .refused := by
  rw [verify, Token.verify, bearer_eq]
  cases Token.bearer authorization with
  | error r => rfl
  | ok text =>
      simp only [Except.mapError, Attempt.ok_bind, parse_eq]
      cases hparse : Compact.parse text with
      | error r => rfl
      | ok token =>
          obtain ⟨hheader, hpayload⟩ := digitsWithin_of_parse hparse
          simp only [Except.map, parts, Attempt.ok_bind]
          split
          · rfl
          · rw [account_eq hheader hpayload]
            cases claimedAccount token with
            | error r => rfl
            | ok account =>
                simp only [Except.mapError, Attempt.ok_bind, times_eq]
                cases claimedTimes token with
                | error r => rfl
                | ok result =>
                    obtain ⟨issued, expiry⟩ := result
                    simp only [Attempt.ok_bind]
                    cases checkTimes leeway now issued expiry with
                    | error r => rfl
                    | ok =>
                        simp only [Attempt.ok_bind, signature_eq]
                        cases checkSignature account (Utf8.encode token.signingInput)
                          token.signature with
                        | error r => rfl
                        | ok =>
                            simp only [Attempt.ok_bind, identifier_eq hpayload]
                            rfl

theorem authenticate_eq (settings : Settings) (now : Int) (cache : Cache)
    (authorization : Option Text) :
    authenticate settings now cache authorization =
      ((Token.authenticate settings now cache authorization).1.mapError .refused,
        (Token.authenticate settings now cache authorization).2) := by
  unfold authenticate Token.authenticate
  rw [verify_eq]
  cases Token.verify settings.leeway now authorization with
  | error refusal => rfl
  | ok claim =>
      simp only [Except.mapError]
      cases cache.take settings.idLifetime claim.id now claim.expiry with
      | mk answer cache =>
          cases answer with
          | error refusal => rfl
          | ok => rfl

end Stepwise

theorem length_of_authenticate {settings : Settings} {now : Int} {cache : Cache}
    {authorization : Option Text} {account : Bytes}
    (h : (authenticate settings now cache authorization).1 = .ok account) :
    account.length = 32 := by
  obtain ⟨claim, hclaim, -, haction⟩ := authenticate_eq_ok_iff.mp h
  obtain ⟨token, issued, hconvinces, -⟩ := verify_eq_ok_iff_convinces.mp hclaim
  rw [← (checkAction_eq_ok_iff.mp haction).2]
  exact hconvinces.length_account

/-- No failure escapes the check of a call. Taken in steps, each of which fails in its own class
and has its own clause around it, the check comes to the same answer and the same cache, and the
answer is an account of 32 bytes or a refusal with status 400 or 401: whatever the header is, no
bad value, bad kind, number out of range, missing item or failed signature gets out. -/
theorem no_failure_escapes (settings : Settings) (now : Int) (cache : Cache)
    (authorization : Option Text) :
    Stepwise.authenticate settings now cache authorization =
      ((authenticate settings now cache authorization).1.mapError .refused,
        (authenticate settings now cache authorization).2) ∧
    ((∃ account, (Stepwise.authenticate settings now cache authorization).1 = .ok account ∧
        account.length = 32) ∨
      ∃ refusal, (Stepwise.authenticate settings now cache authorization).1 =
        .error (.refused refusal) ∧ (refusal.status = 400 ∨ refusal.status = 401)) := by
  have hsame := Stepwise.authenticate_eq settings now cache authorization
  refine ⟨hsame, ?_⟩
  rw [hsame]
  cases hanswer : (authenticate settings now cache authorization).1 with
  | ok account => exact .inl ⟨account, rfl, length_of_authenticate hanswer⟩
  | error refusal => exact .inr ⟨refusal, rfl, refusal.status_eq_400_or_401⟩

end SealedPost.Token
