import Mathlib.Algebra.Order.Floor.Semifield
import Mathlib.Data.Rat.Floor
import SealedPost.Proofs.Text.Numerals
import SealedPost.Proofs.Token.Acceptance
import SealedPost.Proofs.Token.Refusals

/-!
# What is taken for a time

The times of a token should be integers. What the reader of a time refuses is less than that: it
refuses the values that stand for no number at all, and takes every other one for the integer
that it counts as. So a token may carry its times as numbers with a fraction, as texts or as
truth values and still be answered with its account.
-/

namespace SealedPost

namespace Json

/-- The integer that a value counts as: an integer for itself, a truth value for one or zero, a
number of double precision for its part before the point, a text for the integer it spells. -/
inductive CountsAs : Json → Int → Prop
  | integer (n : Int) : CountsAs (.int n) n
  | holds : CountsAs (.bool true) 1
  | fails : CountsAs (.bool false) 0
  | number (negative : Bool) (mantissa : Nat) (exponent : Int) :
      CountsAs (.float (.finite negative mantissa exponent))
        (Text.signed negative ⌊(mantissa : ℚ) * 2 ^ exponent⌋₊)
  | text {t : Text} {n : Int} (h : Text.IsInteger t n) : CountsAs (.str t) n

/-- The values that count as no integer: those without a number in them, the special numbers and
the texts that spell none. -/
inductive NoNumber : Json → Prop
  | null : NoNumber .null
  | list (items : List Json) : NoNumber (.arr items)
  | object (members : List (Text × Json)) : NoNumber (.obj members)
  | infinite (negative : Bool) : NoNumber (.float (.infinite negative))
  | nan : NoNumber (.float .nan)
  | text {t : Text} (h : ∀ n, ¬ Text.IsInteger t n) : NoNumber (.str t)

/-- Cutting a mantissa at the point gives the floor of the number that it is part of. -/
theorem truncate?_finite (negative : Bool) (mantissa : Nat) (exponent : Int) :
    (Binary64.finite negative mantissa exponent).truncate? =
      some (Text.signed negative ⌊(mantissa : ℚ) * 2 ^ exponent⌋₊) := by
  have hsize : (if 0 ≤ exponent then mantissa * Nat.pow 2 exponent.toNat
      else mantissa / Nat.pow 2 (-exponent).toNat) = ⌊(mantissa : ℚ) * 2 ^ exponent⌋₊ := by
    split
    · next hwhole =>
        obtain ⟨k, rfl⟩ := Int.eq_ofNat_of_zero_le hwhole
        have hcast : (mantissa : ℚ) * 2 ^ (k : Int) = ((mantissa * 2 ^ k : Nat) : ℚ) := by
          push_cast
          rw [zpow_natCast]
        rw [hcast, Nat.floor_natCast, Int.toNat_natCast, Nat.pow_eq]
    · next hpart =>
        obtain ⟨k, hk⟩ : ∃ k : Nat, -exponent = k := ⟨(-exponent).toNat, by omega⟩
        have hcast : (mantissa : ℚ) * 2 ^ exponent = (mantissa : ℚ) / ((2 ^ k : Nat) : ℚ) := by
          rw [← neg_neg exponent, hk, zpow_neg, zpow_natCast, div_eq_mul_inv]
          push_cast
          rfl
        rw [hcast, Nat.floor_div_natCast, Nat.floor_natCast, hk, Int.toNat_natCast, Nat.pow_eq]
  rw [Binary64.truncate?, hsize, Text.signed]

theorem toInt?_eq_some_iff {v : Json} {n : Int} : v.toInt? = some n ↔ v.CountsAs n := by
  constructor
  · intro h
    cases v with
    | null => cases h
    | bool b =>
        cases h
        cases b with
        | false => exact .fails
        | true => exact .holds
    | int m =>
        cases h
        exact .integer n
    | float x =>
        cases x with
        | finite negative mantissa exponent =>
            cases (truncate?_finite negative mantissa exponent).symm.trans h
            exact .number negative mantissa exponent
        | infinite negative => cases h
        | nan => cases h
    | str t => exact .text (Text.toInt?_eq_some_iff.mp h)
    | arr items => cases h
    | obj members => cases h
  · intro h
    cases h with
    | integer => rfl
    | holds => rfl
    | fails => rfl
    | number negative mantissa exponent => exact truncate?_finite negative mantissa exponent
    | text h => exact Text.toInt?_eq_some_iff.mpr h

theorem toInt?_eq_none_iff {v : Json} : v.toInt? = none ↔ v.NoNumber := by
  constructor
  · intro h
    cases v with
    | null => exact .null
    | bool b => cases h
    | int m => cases h
    | float x =>
        cases x with
        | finite negative mantissa exponent => cases h
        | infinite negative => exact .infinite negative
        | nan => exact .nan
    | str t =>
        refine .text fun n hn => ?_
        cases (Text.toInt?_eq_some_iff.mpr hn).symm.trans h
    | arr items => exact .list items
    | obj members => exact .object members
  · intro h
    cases h with
    | null => rfl
    | list => rfl
    | object => rfl
    | infinite => rfl
    | nan => rfl
    | text h =>
        refine Option.eq_none_iff_forall_ne_some.mpr ?_
        intro n hn
        exact h n (Text.toInt?_eq_some_iff.mp hn)

end Json

namespace Token

open Crypto

/-- The members of a payload in which its times are. -/
def timeNames : List Text := ["iat", "exp"]

/-- The time in a member of a payload: what its value counts as, and zero if there is none. -/
def TimeIn (name : Text) (payload : List (Text × Json)) (n : Int) : Prop :=
  (Json.member? name payload = none ∧ n = 0) ∨
    ∃ v, Json.member? name payload = some v ∧ v.CountsAs n

/-- A call passes the checks that are made before the times are read: it presents a token for the
algorithm, in which header and payload name one account. -/
structure ReachesTimes (authorization : Option Text) (token : Compact) (account : Bytes) :
    Prop where
  presents : Presents authorization token
  algorithm : Json.member? "alg" token.header = some (.str "EdDSA")
  named : accountText "kid" token.header ≠ []
  agreed : accountText "kid" token.header = accountText "sub" token.payload
  decoded : Base64.decodeUrl (accountText "kid" token.header) = .ok account
  length_account : account.length = 32

section Calls

variable {settings : Settings} {now : Int} {cache : Cache} {authorization : Option Text}
  {token : Compact} {account : Bytes}

theorem time?_eq_some_iff {name : Text} {payload : List (Text × Json)} {n : Int} :
    time? name payload = some n ↔ TimeIn name payload n := by
  unfold time? TimeIn
  cases Json.member? name payload with
  | none => simp [eq_comm]
  | some v => simp [Json.toInt?_eq_some_iff]

theorem time?_eq_none_iff {name : Text} {payload : List (Text × Json)} :
    time? name payload = none ↔ ∃ v, Json.member? name payload = some v ∧ v.NoNumber := by
  unfold time?
  cases Json.member? name payload with
  | none => simp
  | some v => simp [Json.toInt?_eq_none_iff]

theorem reachesTimes_iff : ReachesTimes authorization token account ↔
    presented authorization = .ok token ∧
      (Json.member? "alg" token.header).bind Json.text? = some ("EdDSA" : Text) ∧
      claimedAccount token = .ok account := by
  rw [presented_eq_ok_iff, bind_text?_eq_some_iff, claimedAccount_eq_ok_iff]
  constructor
  · intro h
    exact ⟨h.presents, h.algorithm, h.named, h.agreed, h.decoded, h.length_account⟩
  · rintro ⟨hpresents, halgorithm, hnamed, hagreed, hdecoded, hlength⟩
    exact ⟨hpresents, halgorithm, hnamed, hagreed, hdecoded, hlength⟩

/-- No check but that of the times refuses with the words of it. -/
theorem verify_eq_invalidTimes_iff {leeway : Int} :
    verify leeway now authorization = .error .invalidTimes ↔
      ∃ token account, ReachesTimes authorization token account ∧
        ∃ name ∈ timeNames, time? name token.payload = none := by
  simp only [timeNames, List.mem_cons, List.not_mem_nil, or_false, exists_eq_or_imp,
    exists_eq_left]
  constructor
  · intro h
    rcases verify_eq_error_iff.mp h with h | ⟨token, hpresented, hrefused⟩
    · rcases presented_eq_error h with h | h <;> cases h
    · cases hrefused with
      | account _ h => rcases claimedAccount_eq_error h with h | h | h <;> cases h
      | times halgorithm haccount h =>
          exact ⟨token, _, reachesTimes_iff.mpr ⟨hpresented, halgorithm, haccount⟩,
            (claimedTimes_eq_error_iff.mp h).2⟩
      | clock _ _ _ h => rcases checkTimes_eq_error h with h | h | h <;> cases h
      | signature _ _ _ _ h => cases checkSignature_eq_error h
  · rintro ⟨token, account, hreaches, htimes⟩
    obtain ⟨hpresented, halgorithm, haccount⟩ := reachesTimes_iff.mp hreaches
    exact verify_eq_error_iff.mpr (.inr ⟨token, hpresented,
      .times halgorithm haccount (claimedTimes_eq_error_iff.mpr ⟨rfl, htimes⟩)⟩)

/-- Neither the cache nor the action of a token refuses with the words for its times. -/
theorem authenticate_eq_invalidTimes_iff :
    (authenticate settings now cache authorization).1 = .error .invalidTimes ↔
      verify settings.leeway now authorization = .error .invalidTimes := by
  cases hverify : verify settings.leeway now authorization with
  | error refusal =>
      rw [authenticate_of_error hverify]
      simp only [Except.error.injEq]
  | ok claim =>
      rw [authenticate_of_ok hverify]
      refine ⟨fun h => ?_, nofun⟩
      obtain ⟨-, htake⟩ | ⟨-, -, htake⟩ | ⟨-, -, htake⟩ :=
        Cache.take_cases cache settings.idLifetime claim.id now claim.expiry
      · rw [htake] at h
        cases h
      · rw [htake] at h
        cases h
      · rw [htake] at h
        cases checkAction_eq_error h

/-- A call convinces if it passes the checks before the times, then those of the times and of the
signature. -/
theorem convinces_iff {leeway issued expiry : Int} :
    Convinces leeway now authorization token account issued expiry ↔
      ReachesTimes authorization token account ∧
        TimeIn "iat" token.payload issued ∧ TimeIn "exp" token.payload expiry ∧
        issued ≠ 0 ∧ expiry ≠ 0 ∧ issued ≤ now + leeway ∧ now - leeway ≤ expiry ∧
        Ed25519.verify account (Utf8.encode token.signingInput) token.signature = true := by
  constructor
  · intro h
    exact ⟨⟨h.presents, h.algorithm, h.named, h.agreed, h.decoded, h.length_account⟩,
      time?_eq_some_iff.mp h.issued_eq, time?_eq_some_iff.mp h.expiry_eq, h.issued_ne_zero,
      h.expiry_ne_zero, h.issued_le, h.le_expiry, h.signature⟩
  · rintro ⟨hreaches, hissued, hexpiry, hissued₀, hexpiry₀, hstarted, hvalid, hsignature⟩
    exact {
      presents := hreaches.presents
      algorithm := hreaches.algorithm
      named := hreaches.named
      agreed := hreaches.agreed
      decoded := hreaches.decoded
      length_account := hreaches.length_account
      issued_eq := time?_eq_some_iff.mpr hissued
      expiry_eq := time?_eq_some_iff.mpr hexpiry
      issued_ne_zero := hissued₀
      expiry_ne_zero := hexpiry₀
      issued_le := hstarted
      le_expiry := hvalid
      signature := hsignature }

end Calls

/-- A call is refused for its times exactly if it passes the checks before and one of them is a
value without a number; the answer is 400 with these words, and the cache stays as it is. A call
is answered with an account exactly if it passes those checks with two times that are not zero
and fit the clock, each of which may be any value that counts as that integer, and the checks that
come after. -/
theorem times_refused_iff_no_number (settings : Settings) (now : Int) (cache : Cache)
    (authorization : Option Text) :
    ((authenticate settings now cache authorization).1 = .error .invalidTimes ↔
      ∃ token account, ReachesTimes authorization token account ∧
        ∃ name ∈ timeNames, ∃ v, Json.member? name token.payload = some v ∧ v.NoNumber) ∧
    ((authenticate settings now cache authorization).1 = .error .invalidTimes →
      (authenticate settings now cache authorization).2 = cache ∧
      Refusal.invalidTimes.status = 400 ∧
      Refusal.invalidTimes.message = Text.ofString "Invalid iat/exp") ∧
    ∀ account, (authenticate settings now cache authorization).1 = .ok account ↔
      ∃ token issued expiry, ReachesTimes authorization token account ∧
        TimeIn "iat" token.payload issued ∧ TimeIn "exp" token.payload expiry ∧
        issued ≠ 0 ∧ expiry ≠ 0 ∧
        issued ≤ now + settings.leeway ∧ now - settings.leeway ≤ expiry ∧
        Ed25519.verify account (Utf8.encode token.signingInput) token.signature = true ∧
        idText token.payload ≠ [] ∧
        (∀ entry ∈ cache, entry.1 = idText token.payload → entry.2 < now) ∧
        (Json.member? "act" token.payload = some (.str "send") ∨
          Json.member? "act" token.payload = some (.str "messages.send")) := by
  refine ⟨?_, ?_, ?_⟩
  · simp only [authenticate_eq_invalidTimes_iff, verify_eq_invalidTimes_iff, time?_eq_none_iff]
  · intro h
    rw [authenticate_of_error (authenticate_eq_invalidTimes_iff.mp h)]
    exact ⟨rfl, rfl, rfl⟩
  · intro account
    simp only [authenticate_eq_ok_iff, verify_eq_ok_iff_convinces, Cache.take_eq_ok_iff,
      checkAction_eq_ok_iff]
    constructor
    · rintro ⟨claim, ⟨token, issued, h, hid, haction⟩, ⟨hsome, hfree⟩, hfor, rfl⟩
      rw [hid] at hsome hfree
      rw [haction, bind_text?_eq_some_iff, bind_text?_eq_some_iff] at hfor
      obtain ⟨hreaches, hissued, hexpiry, hissued₀, hexpiry₀, hstarted, hvalid, hsignature⟩ :=
        convinces_iff.mp h
      exact ⟨token, issued, claim.expiry, hreaches, hissued, hexpiry, hissued₀, hexpiry₀, hstarted,
        hvalid, hsignature, hsome, hfree, hfor⟩
    · rintro ⟨token, issued, expiry, hreaches, hissued, hexpiry, hissued₀, hexpiry₀, hstarted,
        hvalid, hsignature, hsome, hfree, hfor⟩
      have h : Convinces settings.leeway now authorization token account issued expiry :=
        convinces_iff.mpr ⟨hreaches, hissued, hexpiry, hissued₀, hexpiry₀, hstarted, hvalid,
          hsignature⟩
      refine ⟨_, verify_eq_ok_iff_convinces.mp h.verify_eq, ⟨hsome, hfree⟩, ?_, rfl⟩
      exact hfor.imp bind_text?_eq_some_iff.mpr bind_text?_eq_some_iff.mpr

/-- Holds of settings with which a token is answered with an account only if its times are
integers where they are given. -/
def OnlyIntegerTimes (settings : Settings) : Prop :=
  ∀ (now : Int) (cache : Cache) (authorization : Option Text) (account : Bytes) (token : Compact),
    (authenticate settings now cache authorization).1 = .ok account →
    Presents authorization token →
    ∀ name ∈ timeNames, ∀ v, Json.member? name token.payload = some v → ∃ n, v = .int n

section Sample

/-- A token like the one for an hour with a value as the time of its issue, as it is presented. -/
def issuedAt (issued : Json) (signature : Bytes) : Text :=
  let name : Text := Base64.encodeUrl hourAccount
  let header : Json := .obj [("alg", .str "EdDSA"), ("kid", .str name)]
  let payload : Json := .obj [("sub", .str name), ("iat", issued), ("exp", .int 1700003600),
    ("jti", .str "j"), ("act", .str "send")]
  "Bearer " ++ Compact.build (Utf8.encode (Json.writeCompact header))
    (Utf8.encode (Json.writeCompact payload)) signature

/-- A token that was issued at half past a second. -/
def fractionToken : Text := issuedAt (.float (.ofDecimal false 17000000005 (-1)))
  [111, 192, 77, 91, 139, 149, 28, 201, 115, 92, 37, 215, 223, 55, 144, 250, 110, 152, 45, 33,
    106, 232, 100, 183, 152, 100, 11, 101, 158, 87, 166, 166, 74, 228, 104, 87, 140, 238, 203,
    21, 167, 176, 155, 241, 232, 130, 193, 248, 157, 62, 32, 57, 9, 184, 5, 230, 64, 96, 239, 5,
    85, 192, 22, 12]

/-- A token whose time of issue is a text. -/
def textToken : Text := issuedAt (.str "1700000000")
  [33, 103, 37, 165, 156, 59, 192, 130, 194, 156, 222, 36, 202, 145, 231, 103, 51, 115, 205, 123,
    82, 107, 172, 45, 73, 228, 111, 178, 63, 149, 182, 23, 222, 255, 34, 227, 240, 139, 119,
    196, 92, 66, 237, 128, 19, 192, 215, 42, 45, 6, 99, 130, 244, 17, 2, 199, 37, 211, 201, 208,
    20, 24, 0, 1]

/-- A token that says that it was issued, and not when. -/
def truthToken : Text := issuedAt (.bool true)
  [13, 195, 35, 113, 228, 75, 245, 0, 135, 102, 177, 210, 204, 95, 12, 8, 252, 216, 97, 234, 70,
    52, 104, 154, 45, 132, 137, 7, 142, 216, 10, 214, 227, 228, 237, 86, 63, 206, 123, 230, 184,
    169, 161, 162, 129, 115, 126, 84, 6, 118, 200, 203, 16, 38, 7, 65, 243, 198, 212, 224, 36,
    5, 98, 5]

/-- Holds if an authorization presents a token with a time of issue that is no integer. -/
def presentsOddIssue (authorization : Option Text) : Bool :=
  (presented authorization).toOption.any fun token =>
    match Json.member? "iat" token.payload with
    | none | some (.int _) => false
    | some _ => true

/-- A token with such a time that is answered with an account shows that others than integers
are taken. -/
theorem not_onlyIntegerTimes {settings : Settings} {now : Int} {cache : Cache}
    {authorization : Option Text} {account : Bytes}
    (hanswer : (authenticate settings now cache authorization).1 = .ok account)
    (hodd : presentsOddIssue authorization = true) : ¬ OnlyIntegerTimes settings := by
  intro honly
  obtain ⟨token, htoken, hmember⟩ := (Option.any_eq_true ..).mp hodd
  have hpresents : Presents authorization token :=
    presented_eq_ok_iff.mp (Attempt.eq_ok_of_toOption_eq_some htoken)
  split at hmember
  · cases hmember
  · cases hmember
  · next v hinteger hv =>
      obtain ⟨n, rfl⟩ := honly now cache authorization account token hanswer hpresents "iat"
        (List.mem_cons_self ..) v hv
      exact hinteger n rfl

/-- A verified token for messages is answered with its account if it is the first. -/
theorem authenticate_nil_of_verify {settings : Settings} {now expiry : Int}
    {authorization : Option Text} {account : Bytes}
    (h : verify settings.leeway now authorization =
      .ok ⟨account, "j", expiry, some ("send" : Text)⟩) :
    (authenticate settings now [] authorization).1 = .ok account :=
  authenticate_eq_ok_iff.mpr ⟨_, h, Cache.take_eq_ok_iff.mpr ⟨nofun, nofun⟩,
    by simp [checkAction, messageActions]⟩

/-- Each of the three tokens is answered with its account. -/
theorem odd_times_are_answered :
    (authenticate .default 1700000000 [] (some fractionToken)).1 = .ok hourAccount ∧
    (authenticate .default 1700000000 [] (some textToken)).1 = .ok hourAccount ∧
    (authenticate .default 1700000000 [] (some truthToken)).1 = .ok hourAccount ∧
    presentsOddIssue (some fractionToken) = true ∧
    presentsOddIssue (some textToken) = true ∧
    presentsOddIssue (some truthToken) = true ∧
    ¬ OnlyIntegerTimes .default := by
  have hfraction : verify Settings.default.leeway 1700000000 (some fractionToken) =
      .ok ⟨hourAccount, "j", 1700003600, some ("send" : Text)⟩ :=
    Attempt.eq_ok_of_toOption_eq_some (by decide +kernel)
  have htext : verify Settings.default.leeway 1700000000 (some textToken) =
      .ok ⟨hourAccount, "j", 1700003600, some ("send" : Text)⟩ :=
    Attempt.eq_ok_of_toOption_eq_some (by decide +kernel)
  have htruth : verify Settings.default.leeway 1700000000 (some truthToken) =
      .ok ⟨hourAccount, "j", 1700003600, some ("send" : Text)⟩ :=
    Attempt.eq_ok_of_toOption_eq_some (by decide +kernel)
  have hodd : presentsOddIssue (some fractionToken) = true := by decide +kernel
  refine ⟨authenticate_nil_of_verify hfraction, authenticate_nil_of_verify htext,
    authenticate_nil_of_verify htruth, hodd, by decide +kernel, by decide +kernel, ?_⟩
  exact not_onlyIntegerTimes (authenticate_nil_of_verify hfraction) hodd

end Sample

end Token
end SealedPost
