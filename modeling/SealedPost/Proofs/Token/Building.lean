import SealedPost.Proofs.Base64
import SealedPost.Proofs.Text.Trimming
import SealedPost.Proofs.Token.Failures

/-!
# What is built is taken apart

A segment is written without padding and holds no point. So the points of a built token are those
between its segments, and each segment gives back the bytes that were written into it. An account
is written in the same way, and as its text has no blanks, blanks around it do not matter.
-/

namespace SealedPost

/-- What is written for addresses is left alone by trimming, also with blanks around it. -/
theorem Base64.trim_encodeUrl {before after : Text} (hbefore : ∀ c ∈ before, c.isBlank = true)
    (hafter : ∀ c ∈ after, c.isBlank = true) (bytes : Bytes) :
    Text.trim (before ++ encodeUrl bytes ++ after) = encodeUrl bytes := by
  have hkeep : ∀ c ∈ encodeUrl bytes, c.isBlank = false := by
    intro c hc
    obtain ⟨n, hn, rfl⟩ := mem_encodeUrl hc
    exact (addressDigit_props hn).2.1
  calc Text.trim (before ++ encodeUrl bytes ++ after)
      = Text.trim (encodeUrl bytes) := Text.trimBy_append hbefore hafter _
    _ = encodeUrl bytes := Text.trimBy_of_forall hkeep

/-- None of the signs that have a meaning beside the digits occurs in what is written for
addresses. -/
theorem Base64.not_mem_encodeUrl (bytes : Bytes) :
    ∀ sign ∈ ['=', '.', '+', '/'], CodePoint.char sign ∉ encodeUrl bytes := by
  intro sign hsign hmem
  obtain ⟨n, hn, hdigit⟩ := mem_encodeUrl hmem
  apply (addressDigit_props hn).2.2
  rw [← hdigit]
  exact List.mem_map_of_mem hsign

namespace Token

theorem readObject?_encodeUrl_eq_some_iff {bytes : Bytes} {members : List (Text × Json)} :
    readObject? (Base64.encodeUrl bytes) = some members ↔
      Json.readDocument bytes = .ok (.obj members) := by
  rw [readObject?_eq_some_iff]
  constructor
  · rintro ⟨other, hother, hread⟩
    cases (Base64.decodeUrl_encodeUrl bytes).symm.trans hother
    exact hread
  · intro hread
    exact ⟨bytes, Base64.decodeUrl_encodeUrl bytes, hread⟩

namespace Compact

/-- The pieces of a built token are the segments that it was built from. -/
theorem splitOn_build (header payload signature : Bytes) :
    Text.splitOn (.char '.') (build header payload signature) =
      [Base64.encodeUrl header, Base64.encodeUrl payload, Base64.encodeUrl signature] := by
  have hpoint (bytes : Bytes) : CodePoint.char '.' ∉ Base64.encodeUrl bytes :=
    Base64.not_mem_encodeUrl bytes '.' (by decide)
  apply Text.splitOn_eq_triple_iff.mpr
  constructor
  · rw [build, joinSegments]
  · simp only [List.forall_mem_cons]
    exact ⟨hpoint header, hpoint payload, hpoint signature, List.forall_mem_nil _⟩

/-- A built token is one exactly if its header and its payload are objects. Its parts are then
these objects, the signature and the text of the first two segments. -/
theorem parse_build_eq_ok_iff {header payload signature : Bytes} {token : Compact} :
    parse (build header payload signature) = .ok token ↔
      Json.readDocument header = .ok (.obj token.header) ∧
        Json.readDocument payload = .ok (.obj token.payload) ∧
        token.signature = signature ∧
        token.signingInput =
          joinSegments (Base64.encodeUrl header) (Base64.encodeUrl payload) := by
  rw [parse_eq_ok_iff, splitOn_build]
  constructor
  · rintro ⟨_, _, _, hpieces, hheader, hpayload, hsignature, hinput⟩
    cases hpieces
    rw [readObject?_encodeUrl_eq_some_iff] at hheader hpayload
    rw [Base64.decodeUrl_encodeUrl] at hsignature
    exact ⟨hheader, hpayload, (Except.ok.inj hsignature).symm, hinput⟩
  · rintro ⟨hheader, hpayload, rfl, hinput⟩
    refine ⟨_, _, _, rfl, ?_, ?_, Base64.decodeUrl_encodeUrl _, hinput⟩
    · exact readObject?_encodeUrl_eq_some_iff.mpr hheader
    · exact readObject?_encodeUrl_eq_some_iff.mpr hpayload

end Compact

/-- What is signed has a byte of ASCII for each character. -/
theorem ascii_joinSegments (header payload : Bytes) :
    let signed := joinSegments (Base64.encodeUrl header) (Base64.encodeUrl payload)
    Stepwise.ascii signed = .ok (Utf8.encode signed) := by
  have hsegment (bytes : Bytes) : (Base64.encodeUrl bytes).all CodePoint.isAscii = true :=
    Stepwise.all_isAscii_of_decodeUrl (Base64.decodeUrl_encodeUrl bytes)
  apply Stepwise.ascii_eq_encode
  rw [joinSegments, List.all_append, List.all_cons, hsegment, hsegment]
  rfl

/-- Blanks around it apart, the text of an account gives its bytes back if there are 32 of them. -/
theorem account_encodeUrl_eq_ok_iff {before after : Text} (hbefore : ∀ c ∈ before, c.isBlank = true)
    (hafter : ∀ c ∈ after, c.isBlank = true) {bytes result : Bytes} :
    account (before ++ Base64.encodeUrl bytes ++ after) = .ok result ↔
      result = bytes ∧ bytes.length = 32 := by
  rw [account_eq_ok_iff, Base64.trim_encodeUrl hbefore hafter, Base64.decodeUrl_encodeUrl,
    Except.ok.injEq]
  constructor
  · rintro ⟨rfl, hlength⟩
    exact ⟨rfl, hlength⟩
  · rintro ⟨rfl, hlength⟩
    exact ⟨rfl, hlength⟩

/-- Whatever is built reads back. Bytes that are written for addresses read as these bytes, and no
padding, point or standard sign occurs in them. A built token is taken apart into the objects of
its header and its payload, its signature, and the text of the first two segments, which is signed
in ASCII; it is refused only if one of the two is no object. And with any blanks around it, the
text of 32 bytes is the account of these bytes, while no other number of bytes is an account. -/
theorem built_tokens_and_accounts_read_back (header payload signature bytes : Bytes)
    {before after : Text} (hbefore : ∀ c ∈ before, c.isBlank = true)
    (hafter : ∀ c ∈ after, c.isBlank = true) :
    Base64.decodeUrl (Base64.encodeUrl bytes) = .ok bytes ∧
    (∀ sign ∈ ['=', '.', '+', '/'], CodePoint.char sign ∉ Base64.encodeUrl bytes) ∧
    (∀ token, Compact.parse (Compact.build header payload signature) = .ok token ↔
      Json.readDocument header = .ok (.obj token.header) ∧
        Json.readDocument payload = .ok (.obj token.payload) ∧
        token.signature = signature ∧
        token.signingInput =
          joinSegments (Base64.encodeUrl header) (Base64.encodeUrl payload)) ∧
    (let signed := joinSegments (Base64.encodeUrl header) (Base64.encodeUrl payload)
     Stepwise.ascii signed = .ok (Utf8.encode signed)) ∧
    ∀ result, account (before ++ Base64.encodeUrl bytes ++ after) = .ok result ↔
      result = bytes ∧ bytes.length = 32 := by
  refine ⟨Base64.decodeUrl_encodeUrl bytes, Base64.not_mem_encodeUrl bytes, ?_, ?_, ?_⟩
  · intro token
    exact Compact.parse_build_eq_ok_iff
  · exact ascii_joinSegments header payload
  · intro result
    exact account_encodeUrl_eq_ok_iff hbefore hafter

/-- A token without a signature reads back, and so does an account between a tab and a no-break
space. -/
theorem unsigned_token_and_framed_account_read_back :
    let header : Bytes := [123, 34, 97, 34, 58, 49, 125]
    let payload : Bytes := [123, 125]
    let accountBytes : Bytes := List.replicate 32 251
    let framed : Text :=
      [.char '\t'] ++ Base64.encodeUrl accountBytes ++ [.char (Char.ofNat 0xA0)]
    Compact.parse (Compact.build header payload []) =
      .ok ⟨[(("a" : Text), .int 1)], [], [],
        joinSegments (Base64.encodeUrl header) (Base64.encodeUrl payload)⟩ ∧
    account framed = .ok accountBytes := by
  intro header payload accountBytes framed
  have hheader : Json.readDocument header = .ok (.obj [(("a" : Text), .int 1)]) := by rfl
  have hpayload : Json.readDocument payload = .ok (.obj []) := by rfl
  have hbefore : ∀ c ∈ [CodePoint.char '\t'], c.isBlank = true := by decide
  have hafter : ∀ c ∈ [CodePoint.char (Char.ofNat 0xA0)], c.isBlank = true := by decide
  obtain ⟨-, -, htoken, -, haccount⟩ :=
    built_tokens_and_accounts_read_back header payload [] accountBytes hbefore hafter
  constructor
  · exact (htoken _).mpr ⟨hheader, hpayload, rfl, rfl⟩
  · exact (haccount _).mpr ⟨rfl, List.length_replicate⟩

end Token
end SealedPost
