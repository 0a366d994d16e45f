import SealedPost.Proofs.Text.Trimming
import SealedPost.Proofs.Token.Replay

/-!
# When a call is accepted

A call convinces if it presents a token that was signed by the account it names and whose
times fit the clock. It is answered with that account exactly if, besides, the identifier of
the token can be taken and its action is one for messages. A call that does not convince
leaves the cache as it is, so whatever is in the cache was put there by a call that did.
-/

namespace SealedPost

namespace Text

theorem splitOn_eq (sep : CodePoint) (t : Text) : splitOn sep t = List.splitOn sep t := by
  induction t with
  | nil => rfl
  | cons c rest ih =>
      rw [splitOn, ih, List.splitOn_cons_eq_if_modifyHead]
      by_cases hc : c = sep
      · rw [if_pos hc, if_pos (beq_iff_eq.mpr hc)]
      · rw [if_neg hc, if_neg (beq_iff_eq.not.mpr hc)]
        cases hpieces : List.splitOn sep rest with
        | nil => exact absurd hpieces (List.splitOn_ne_nil sep rest)
        | cons piece pieces => rfl

/-- A text has three pieces exactly if it consists of them, with separators between them and
none inside. -/
theorem splitOn_eq_triple_iff {sep : CodePoint} {t a b c : Text} :
    splitOn sep t = [a, b, c] ↔
      t = a ++ sep :: b ++ sep :: c ∧ ∀ piece ∈ [a, b, c], sep ∉ piece := by
  have hjoin : [sep].intercalate [a, b, c] = a ++ sep :: b ++ sep :: c := by
    simp [List.intercalate]
  constructor
  · intro h
    refine ⟨?_, fun piece hpiece => not_mem_of_mem_splitOn (h ▸ hpiece)⟩
    rw [← hjoin, ← h, splitOn_eq, List.intercalate_splitOn]
  · rintro ⟨rfl, hpieces⟩
    rw [splitOn_eq, ← hjoin]
    exact List.splitOn_intercalate sep hpieces (by simp)

end Text

namespace Token

open Crypto

theorem bearer_eq_ok_iff {authorization : Option Text} {text : Text} :
    bearer authorization = .ok text ↔ ∃ word rest : Text,
      authorization = some (word ++ rest) ∧
        word.map CodePoint.asciiLower = Text.ofString "bearer " ∧ text = Text.trim rest := by
  cases authorization with
  | none => simp [bearer]
  | some t =>
      rw [bearer]
      constructor
      · intro h
        split at h
        · next hword =>
            cases h
            exact ⟨_, _, congrArg some (List.take_append_drop ..).symm, hword, rfl⟩
        · cases h
      · rintro ⟨word, rest, ht, hword, rfl⟩
        cases ht
        have hlength : word.length = (Text.ofString "bearer ").length := by
          rw [← hword, List.length_map]
        rw [← hlength, List.take_left, List.drop_left, if_pos hword]

theorem readObject?_eq_some_iff {segment : Text} {members : List (Text × Json)} :
    readObject? segment = some members ↔ ∃ bytes, Base64.decodeUrl segment = .ok bytes ∧
      Json.readDocument bytes = .ok (.obj members) := by
  unfold readObject?
  cases hbytes : Base64.decodeUrl segment with
  | error fault => simp
  | ok bytes =>
      cases hread : Json.readDocument bytes with
      | error fault => simp [hread]
      | ok v => cases v <;> simp [hread]

/-- An authorization presents a token: after the word for bearers, in any case, and one space
there are three segments with points between them, apart from blanks around them. The first two
are objects in base64, the third is the signature in base64, and what is signed is the text of
the first two with the point between them, as it was received. -/
def Presents (authorization : Option Text) (token : Compact) : Prop :=
  ∃ word rest header payload signature : Text,
    authorization = some (word ++ rest) ∧
    word.map CodePoint.asciiLower = Text.ofString "bearer " ∧
    Text.trim rest = header ++ .char '.' :: payload ++ .char '.' :: signature ∧
    (∀ segment ∈ [header, payload, signature], CodePoint.char '.' ∉ segment) ∧
    (∃ bytes, Base64.decodeUrl header = .ok bytes ∧
      Json.readDocument bytes = .ok (.obj token.header)) ∧
    (∃ bytes, Base64.decodeUrl payload = .ok bytes ∧
      Json.readDocument bytes = .ok (.obj token.payload)) ∧
    Base64.decodeUrl signature = .ok token.signature ∧
    token.signingInput = header ++ .char '.' :: payload

theorem presented_eq_ok_iff {authorization : Option Text} {token : Compact} :
    presented authorization = .ok token ↔ Presents authorization token := by
  simp only [presented, Attempt.bind_eq_ok_iff, bearer_eq_ok_iff, Compact.parse_eq_ok_iff,
    Text.splitOn_eq_triple_iff, readObject?_eq_some_iff, joinSegments]
  constructor
  · rintro ⟨_, ⟨word, rest, ht, hword, rfl⟩, header, payload, signature, ⟨hrest, hpoints⟩, h⟩
    exact ⟨word, rest, header, payload, signature, ht, hword, hrest, hpoints, h⟩
  · rintro ⟨word, rest, header, payload, signature, ht, hword, hrest, hpoints, h⟩
    exact ⟨_, ⟨word, rest, ht, hword, rfl⟩, header, payload, signature, ⟨hrest, hpoints⟩, h⟩

/-- An authorization convinces of an account at a time: it presents a token in which header and
payload name the account by one text, whose times fit the clock up to a leeway, and which the
account signed. -/
structure Convinces (leeway now : Int) (authorization : Option Text) (token : Compact)
    (account : Bytes) (issued expiry : Int) : Prop where
  presents : Presents authorization token
  algorithm : Json.member? "alg" token.header = some (.str "EdDSA")
  named : accountText "kid" token.header ≠ []
  agreed : accountText "kid" token.header = accountText "sub" token.payload
  decoded : Base64.decodeUrl (accountText "kid" token.header) = .ok account
  length_account : account.length = 32
  issued_eq : time? "iat" token.payload = some issued
  expiry_eq : time? "exp" token.payload = some expiry
  issued_ne_zero : issued ≠ 0
  expiry_ne_zero : expiry ≠ 0
  issued_le : issued ≤ now + leeway
  le_expiry : now - leeway ≤ expiry
  signature : Ed25519.verify account (Utf8.encode token.signingInput) token.signature = true

theorem account_eq_ok_iff {t : Text} {bytes : Bytes} :
    account t = .ok bytes ↔ Base64.decodeUrl (Text.trim t) = .ok bytes ∧ bytes.length = 32 := by
  unfold account
  cases Base64.decodeUrl (Text.trim t) with
  | error fault => simp
  | ok decoded =>
      simp only [Except.ok.injEq]
      split
      · next hlength =>
          rw [Except.ok.injEq]
          exact ⟨fun h => ⟨h, h ▸ hlength⟩, fun h => h.1⟩
      · next hlength =>
          exact ⟨nofun, fun h => absurd (h.1 ▸ h.2) hlength⟩

/-- The name of an account has no blanks around it. -/
theorem trim_accountText (name : Text) (members : List (Text × Json)) :
    Text.trim (accountText name members) = accountText name members := by
  unfold accountText
  split
  · rfl
  · split
    · rfl
    · exact Text.trim_trim _

theorem claimedAccount_eq_ok_iff {token : Compact} {bytes : Bytes} :
    claimedAccount token = .ok bytes ↔
      accountText "kid" token.header ≠ [] ∧
        accountText "kid" token.header = accountText "sub" token.payload ∧
        Base64.decodeUrl (accountText "kid" token.header) = .ok bytes ∧ bytes.length = 32 := by
  simp only [claimedAccount, Bool.or_eq_true, List.isEmpty_iff]
  split
  · next hempty =>
      constructor
      · intro h
        cases h
      · rintro ⟨hnamed, hagreed, -⟩
        rcases hempty with h | h
        · exact absurd h hnamed
        · exact absurd (hagreed.trans h) hnamed
  · next hsome =>
      split
      · next hdiffer =>
          constructor
          · intro h
            cases h
          · rintro ⟨-, hagreed, -⟩
            exact absurd hagreed hdiffer
      · next hsame =>
          rw [account_eq_ok_iff, trim_accountText]
          exact ⟨fun h => ⟨fun hk => hsome (.inl hk), not_ne_iff.mp hsame, h⟩, fun h => h.2.2⟩

theorem claimedTimes_eq_ok_iff {token : Compact} {issued expiry : Int} :
    claimedTimes token = .ok (issued, expiry) ↔
      time? "iat" token.payload = some issued ∧ time? "exp" token.payload = some expiry := by
  unfold claimedTimes
  split
  · next hissued hexpiry => simp [hissued, hexpiry]
  · next hnone => exact ⟨nofun, fun h => absurd h.2 (hnone _ _ h.1)⟩

theorem bind_text?_eq_some_iff {value : Option Json} {t : Text} :
    value.bind Json.text? = some t ↔ value = some (.str t) := by
  cases value with
  | none => simp
  | some v => cases v <;> simp [Json.text?]

/-- A call is verified exactly if it convinces of the account of its claim. -/
theorem verify_eq_ok_iff_convinces {leeway now : Int} {authorization : Option Text}
    {claim : Claim} :
    verify leeway now authorization = .ok claim ↔
      ∃ token issued,
        Convinces leeway now authorization token claim.account issued claim.expiry ∧
        claim.id = idText token.payload ∧
        claim.action = (Json.member? "act" token.payload).bind Json.text? := by
  rw [verify_eq_ok_iff]
  constructor
  · rintro ⟨token, issued, htoken, hproves, htimes⟩
    obtain ⟨hnamed, hagreed, hdecoded, hlength⟩ := claimedAccount_eq_ok_iff.mp hproves.account
    obtain ⟨hissued, hexpiry⟩ := claimedTimes_eq_ok_iff.mp hproves.times
    obtain ⟨hissued₀, hexpiry₀, hstarted, hvalid⟩ := checkTimes_eq_ok_iff.mp htimes
    refine ⟨token, issued, ?_, hproves.id, hproves.action⟩
    exact {
      presents := presented_eq_ok_iff.mp htoken
      algorithm := bind_text?_eq_some_iff.mp hproves.algorithm
      named := hnamed
      agreed := hagreed
      decoded := hdecoded
      length_account := hlength
      issued_eq := hissued
      expiry_eq := hexpiry
      issued_ne_zero := hissued₀
      expiry_ne_zero := hexpiry₀
      issued_le := hstarted
      le_expiry := by omega
      signature := hproves.signature }
  · rintro ⟨token, issued, h, hid, haction⟩
    refine ⟨token, issued, presented_eq_ok_iff.mpr h.presents, ?_, ?_⟩
    · exact {
        algorithm := bind_text?_eq_some_iff.mpr h.algorithm
        account := claimedAccount_eq_ok_iff.mpr ⟨h.named, h.agreed, h.decoded, h.length_account⟩
        times := claimedTimes_eq_ok_iff.mpr ⟨h.issued_eq, h.expiry_eq⟩
        signature := h.signature
        id := hid
        action := haction }
    · have hvalid := h.le_expiry
      exact checkTimes_eq_ok_iff.mpr
        ⟨h.issued_ne_zero, h.expiry_ne_zero, h.issued_le, by omega⟩

theorem Convinces.verify_eq {leeway now issued expiry : Int} {authorization : Option Text}
    {token : Compact} {account : Bytes}
    (h : Convinces leeway now authorization token account issued expiry) :
    verify leeway now authorization = .ok ⟨account, idText token.payload, expiry,
      (Json.member? "act" token.payload).bind Json.text?⟩ :=
  verify_eq_ok_iff_convinces.mpr ⟨token, issued, h, rfl, rfl⟩

theorem checkAction_eq_ok_iff {claim : Claim} {account : Bytes} :
    checkAction claim = .ok account ↔
      (claim.action = some (Text.ofString "send") ∨
        claim.action = some (Text.ofString "messages.send")) ∧ claim.account = account := by
  unfold checkAction
  cases claim.action with
  | none => simp
  | some action =>
      simp only [messageActions, List.any_cons, List.any_nil, Bool.or_false, Bool.or_eq_true,
        decide_eq_true_eq, Option.some.injEq, @eq_comm _ action]
      split
      · next haction => simp [haction]
      · next haction => simp [haction]

section Run

variable {settings : Settings} {cache : Cache} {now : Int} {authorization : Option Text}
  {entry : Text × Int}

theorem cacheAfter_append_singleton (settings : Settings) (cache : Cache) (calls : List Call)
    (call : Call) :
    cacheAfter settings cache (calls ++ [call]) =
      (authenticate settings call.now (cacheAfter settings cache calls) call.authorization).2 :=
  cacheAfter_append settings cache calls [call]

/-- A call puts nothing into the cache but the identifier that it takes. -/
theorem mem_or_takes_of_mem_authenticate
    (h : entry ∈ (authenticate settings now cache authorization).2) :
    entry ∈ cache ∨ ∃ claim, verify settings.leeway now authorization = .ok claim ∧
      (cache.take settings.idLifetime claim.id now claim.expiry).1 = .ok () ∧
      entry = (claim.id, max claim.expiry (now + settings.idLifetime)) := by
  cases hverify : verify settings.leeway now authorization with
  | error refusal =>
      rw [authenticate_of_error hverify] at h
      exact .inl h
  | ok claim =>
      rw [authenticate_of_ok hverify] at h
      obtain ⟨-, htake⟩ | ⟨-, -, htake⟩ | ⟨-, -, htake⟩ :=
        Cache.take_cases cache settings.idLifetime claim.id now claim.expiry
      · rw [htake] at h
        exact .inl h
      · rw [htake] at h
        exact .inl (Cache.mem_sweep.mp h).1
      · have hok : (cache.take settings.idLifetime claim.id now claim.expiry).1 = .ok () := by
          rw [htake]
        rcases (Cache.mem_take_of_eq_ok hok).mp h with ⟨hmem, -⟩ | heq
        · exact .inl hmem
        · exact .inr ⟨claim, rfl, hok, heq⟩

/-- What is in the cache after a run was there before, or a call of the run took it. -/
theorem mem_or_takes_of_mem_cacheAfter {calls : List Call}
    (h : entry ∈ cacheAfter settings cache calls) :
    entry ∈ cache ∨ ∃ i call claim, calls[i]? = some call ∧
      verify settings.leeway call.now call.authorization = .ok claim ∧
      ((cacheAfter settings cache (calls.take i)).take settings.idLifetime claim.id call.now
        claim.expiry).1 = .ok () ∧
      entry = (claim.id, max claim.expiry (call.now + settings.idLifetime)) := by
  induction calls using List.reverseRecOn with
  | nil => exact .inl h
  | append_singleton calls call ih =>
      rw [cacheAfter_append_singleton] at h
      rcases mem_or_takes_of_mem_authenticate h with hbefore | ⟨claim, hclaim, htake, heq⟩
      · rcases ih hbefore with hmem | ⟨i, earlier, claim, hcall, hclaim, htake, heq⟩
        · exact .inl hmem
        · have hi : i < calls.length := (List.getElem?_eq_some_iff.mp hcall).1
          refine .inr ⟨i, earlier, claim, ?_, hclaim, ?_, heq⟩
          · rw [List.getElem?_append_left hi, hcall]
          · rw [List.take_append_of_le_length (Nat.le_of_lt hi)]
            exact htake
      · refine .inr ⟨calls.length, call, claim, List.getElem?_concat_length, hclaim, ?_, heq⟩
        rw [List.take_left]
        exact htake

end Run

/-- A call is answered with an account exactly if it convinces of it, the identifier of its
token is not empty and has no entry whose time is not past, and its action is one for messages.
Over any run, a call that does not convince leaves the cache exactly as it is, and every entry
that was not there at the start is for the identifier of a token that convinced. -/
theorem answers_exactly_convincing_calls (settings : Settings) :
    (∀ (now : Int) (cache : Cache) (authorization : Option Text) (account : Bytes),
      (authenticate settings now cache authorization).1 = .ok account ↔
        ∃ token issued expiry,
          Convinces settings.leeway now authorization token account issued expiry ∧
          idText token.payload ≠ [] ∧
          (∀ entry ∈ cache, entry.1 = idText token.payload → entry.2 < now) ∧
          (Json.member? "act" token.payload = some (.str "send") ∨
            Json.member? "act" token.payload = some (.str "messages.send"))) ∧
    ∀ (cache : Cache) (calls : List Call),
      (∀ call : Call,
        (∀ token account issued expiry, ¬ Convinces settings.leeway call.now call.authorization
          token account issued expiry) →
        cacheAfter settings cache (calls ++ [call]) = cacheAfter settings cache calls) ∧
      ∀ entry ∈ cacheAfter settings cache calls, entry ∈ cache ∨
        ∃ call ∈ calls, ∃ token account issued expiry,
          Convinces settings.leeway call.now call.authorization token account issued expiry ∧
          entry = (idText token.payload, max expiry (call.now + settings.idLifetime)) := by
  constructor
  · intro now cache authorization account
    simp only [authenticate_eq_ok_iff, verify_eq_ok_iff_convinces, Cache.take_eq_ok_iff,
      checkAction_eq_ok_iff]
    constructor
    · rintro ⟨claim, ⟨token, issued, h, hid, haction⟩, ⟨hsome, hfree⟩, hfor, rfl⟩
      rw [hid] at hsome hfree
      rw [haction, bind_text?_eq_some_iff, bind_text?_eq_some_iff] at hfor
      exact ⟨token, issued, claim.expiry, h, hsome, hfree, hfor⟩
    · rintro ⟨token, issued, expiry, h, hsome, hfree, hfor⟩
      refine ⟨_, verify_eq_ok_iff_convinces.mp h.verify_eq, ⟨hsome, hfree⟩, ?_, rfl⟩
      exact hfor.imp bind_text?_eq_some_iff.mpr bind_text?_eq_some_iff.mpr
  · intro cache calls
    constructor
    · intro call hcall
      rw [cacheAfter_append_singleton]
      cases hverify : verify settings.leeway call.now call.authorization with
      | error refusal => rw [authenticate_of_error hverify]
      | ok claim =>
          obtain ⟨token, issued, h, -⟩ := verify_eq_ok_iff_convinces.mp hverify
          exact absurd h (hcall token claim.account issued claim.expiry)
    · intro entry hentry
      rcases mem_or_takes_of_mem_cacheAfter hentry with
        hmem | ⟨i, call, claim, hcall, hclaim, -, rfl⟩
      · exact .inl hmem
      · obtain ⟨token, issued, h, hid, -⟩ := verify_eq_ok_iff_convinces.mp hclaim
        rw [hid]
        exact .inr ⟨call, List.mem_of_getElem? hcall, token, claim.account, issued, claim.expiry,
          h, rfl⟩

/-- A token for an hour of an account, with a value as its identifier and with a signature that
may be anything, as it is presented. -/
def hourTokenOf (account : Bytes) (id : Json) (signature : Bytes) : Text :=
  let name : Text := Base64.encodeUrl account
  let header : Json := .obj [("alg", .str "EdDSA"), ("kid", .str name)]
  let payload : Json := .obj [("sub", .str name), ("iat", .int 1700000000),
    ("exp", .int 1700003600), ("jti", id), ("act", .str "send")]
  "Bearer " ++ Compact.build (Utf8.encode (Json.writeCompact header))
    (Utf8.encode (Json.writeCompact payload)) signature

/-- The token for an hour with another signature. -/
def forgedToken : Text := hourTokenOf hourAccount (.str "j") (List.replicate 64 1)

theorem verify_forgedToken :
    (verify Settings.default.leeway 1700000001 (some forgedToken)).toOption = none := by
  decide +kernel

/-- The token for an hour convinces and is answered with its account; the forged one, presented
after it, does not convince and leaves the cache with the one entry that the first one made. -/
theorem forgedToken_leaves_cache :
    let cache := cacheAfter .default [] [⟨1700000000, some hourToken⟩]
    let entry : Text × Int := ("j", 1700003600)
    (authenticate .default 1700000000 [] (some hourToken)).1 = .ok hourAccount ∧
    (∀ token account issued expiry, ¬ Convinces Settings.default.leeway 1700000001
      (some forgedToken) token account issued expiry) ∧
    cacheAfter .default [] [⟨1700000000, some hourToken⟩, ⟨1700000001, some forgedToken⟩] =
      cache ∧
    entry ∈ cache ∧
    ∃ token account issued expiry,
      Convinces Settings.default.leeway 1700000000 (some hourToken) token account issued expiry ∧
      entry = (idText token.payload, max expiry (1700000000 + Settings.default.idLifetime)) := by
  intro cache entry
  obtain ⟨haccepted, hrun⟩ := answers_exactly_convincing_calls .default
  obtain ⟨hinert, hentries⟩ := hrun [] [⟨1700000000, some hourToken⟩]
  obtain ⟨token, issued, h, hid, haction⟩ := verify_eq_ok_iff_convinces.mp verify_hourToken
  have hanswer : (authenticate .default 1700000000 [] (some hourToken)).1 = .ok hourAccount := by
    refine (haccepted ..).mpr ⟨token, issued, _, h, ?_, nofun, ?_⟩
    · rw [← hid]
      exact nofun
    · exact .inl (bind_text?_eq_some_iff.mp haction.symm)
  have hforged : ∀ token account issued expiry, ¬ Convinces Settings.default.leeway 1700000001
      (some forgedToken) token account issued expiry := by
    intro token account issued expiry hconvinces
    have hnone := verify_forgedToken
    rw [hconvinces.verify_eq] at hnone
    cases hnone
  have hentry : entry ∈ cache := mem_authenticate_self verify_hourToken hanswer
  refine ⟨hanswer, hforged, hinert ⟨1700000001, some forgedToken⟩ hforged, hentry, ?_⟩
  rcases hentries entry hentry with hnone | ⟨call, hcall, hshown⟩
  · cases hnone
  · cases List.mem_singleton.mp hcall
    exact hshown

end Token
end SealedPost
