import SealedPost.Json.Writer
import SealedPost.Proofs.Token.Authentication

/-!
# When a token is accepted twice

The cache keeps the identifier of an accepted token until the token expires, and for its
lifetime at least; a token is valid up to the leeway longer. Between the two a token is
accepted again. The invariant of a run is that an entry stays in the cache until its time
is past, whatever other calls do.
-/

namespace SealedPost.Token

namespace Cache

variable {c : Cache} {lifetime now expiry : Int} {id : Text} {entry : Text × Int}

theorem mem_sweep : entry ∈ c.sweep now ↔ entry ∈ c ∧ now ≤ entry.2 := by
  rw [sweep, List.mem_filter, decide_eq_true_iff]

/-- An identifier is taken in one of three ways: an empty one is missing, one that has an
entry whose time is not past is a replay, any other is kept until its token expires and for
the lifetime at least. -/
theorem take_cases (c : Cache) (lifetime : Int) (id : Text) (now expiry : Int) :
    (id = [] ∧ c.take lifetime id now expiry = (.error .missingId, c)) ∨
    (id ≠ [] ∧ (∃ entry ∈ c, entry.1 = id ∧ now ≤ entry.2) ∧
      c.take lifetime id now expiry = (.error .replayed, c.sweep now)) ∨
    (id ≠ [] ∧ (∀ entry ∈ c, entry.1 = id → entry.2 < now) ∧
      c.take lifetime id now expiry =
        (.ok (), c.sweep now ++ [(id, max expiry (now + lifetime))])) := by
  by_cases hid : id = []
  · subst hid
    exact .inl ⟨rfl, rfl⟩
  · have hsome : ¬ id.isEmpty = true := fun h => hid (List.isEmpty_iff.mp h)
    cases hholds : (c.sweep now).holds id with
    | true =>
        obtain ⟨entry, hentry, heq⟩ := List.any_eq_true.mp hholds
        obtain ⟨hmem, hnow⟩ := mem_sweep.mp hentry
        refine .inr (.inl ⟨hid, ⟨entry, hmem, of_decide_eq_true heq, hnow⟩, ?_⟩)
        simp only [take, hsome, hholds, if_true, if_false, Bool.false_eq_true]
    | false =>
        refine .inr (.inr ⟨hid, ?_, ?_⟩)
        · intro entry hentry heq
          by_contra hlate
          have hswept : entry ∈ c.sweep now := mem_sweep.mpr ⟨hentry, Int.not_lt.mp hlate⟩
          exact List.any_eq_false.mp hholds entry hswept (decide_eq_true heq)
        · simp only [take, hsome, hholds, if_false, Bool.false_eq_true]

theorem take_eq_ok_iff : (c.take lifetime id now expiry).1 = .ok () ↔
    id ≠ [] ∧ ∀ entry ∈ c, entry.1 = id → entry.2 < now := by
  obtain ⟨hid, htake⟩ | ⟨hid, ⟨entry, hentry, heq, hnow⟩, htake⟩ | ⟨hid, hpast, htake⟩ :=
    take_cases c lifetime id now expiry
  · rw [htake]
    exact ⟨nofun, fun h => absurd hid h.1⟩
  · rw [htake]
    exact ⟨nofun, fun h => absurd (h.2 entry hentry heq) (Int.not_lt.mpr hnow)⟩
  · rw [htake]
    exact ⟨fun _ => ⟨hid, hpast⟩, fun _ => rfl⟩

/-- An entry whose time is not past stays. -/
theorem mem_take_of_mem (h : entry ∈ c) (hnow : now ≤ entry.2) :
    entry ∈ (c.take lifetime id now expiry).2 := by
  have hswept : entry ∈ c.sweep now := mem_sweep.mpr ⟨h, hnow⟩
  obtain ⟨-, htake⟩ | ⟨-, -, htake⟩ | ⟨-, -, htake⟩ := take_cases c lifetime id now expiry
  · rw [htake]
    exact h
  · rw [htake]
    exact hswept
  · rw [htake]
    exact List.mem_append_left _ hswept

/-- What is in the cache after an identifier was taken: its entry, and what was swept. -/
theorem mem_take_of_eq_ok (h : (c.take lifetime id now expiry).1 = .ok ()) :
    entry ∈ (c.take lifetime id now expiry).2 ↔
      (entry ∈ c ∧ now ≤ entry.2) ∨ entry = (id, max expiry (now + lifetime)) := by
  obtain ⟨-, htake⟩ | ⟨-, -, htake⟩ | ⟨-, -, htake⟩ := take_cases c lifetime id now expiry
  · rw [htake] at h
    cases h
  · rw [htake] at h
    cases h
  · rw [htake, List.mem_append, mem_sweep, List.mem_singleton]

end Cache

/-- A call: the clock and the authorization that is presented. -/
structure Call where
  now : Int
  authorization : Option Text
deriving DecidableEq

/-- The answers to calls made one after the other, from a cache on. -/
def answers (settings : Settings) : Cache → List Call → List (Except Refusal Bytes)
  | _, [] => []
  | cache, call :: rest =>
    let answer := authenticate settings call.now cache call.authorization
    answer.1 :: answers settings answer.2 rest

/-- The text that an authorization presents as signed. -/
def signedText (authorization : Option Text) : Option Text :=
  (presented authorization).toOption.map Compact.signingInput

section Run

variable {settings : Settings} {cache : Cache} {now later : Int} {authorization : Option Text}
  {account : Bytes} {claim : Claim} {entry : Text × Int}

/-- A call leaves an entry whose time is not past in the cache. -/
theorem mem_authenticate_of_mem (h : entry ∈ cache) (hnow : now ≤ entry.2) :
    entry ∈ (authenticate settings now cache authorization).2 := by
  cases hverify : verify settings.leeway now authorization with
  | error refusal =>
      rw [authenticate_of_error hverify]
      exact h
  | ok claim =>
      rw [authenticate_of_ok hverify]
      exact Cache.mem_take_of_mem h hnow

/-- An accepted call puts the identifier of its token into the cache. -/
theorem mem_authenticate_self (hclaim : verify settings.leeway now authorization = .ok claim)
    (h : (authenticate settings now cache authorization).1 = .ok account) :
    (claim.id, max claim.expiry (now + settings.idLifetime)) ∈
      (authenticate settings now cache authorization).2 := by
  obtain ⟨claim', hclaim', htake, -⟩ := authenticate_eq_ok_iff.mp h
  cases hclaim.symm.trans hclaim'
  rw [authenticate_of_ok hclaim]
  exact (Cache.mem_take_of_eq_ok htake).mpr (.inr rfl)

/-- The cache after calls made one after the other. -/
def cacheAfter (settings : Settings) (cache : Cache) (calls : List Call) : Cache :=
  calls.foldl (fun cache call => (authenticate settings call.now cache call.authorization).2) cache

theorem cacheAfter_append (settings : Settings) (cache : Cache) (calls later : List Call) :
    cacheAfter settings cache (calls ++ later) =
      cacheAfter settings (cacheAfter settings cache calls) later :=
  List.foldl_append

/-- Each call is answered from the cache that the calls before it left. -/
theorem getElem?_answers (settings : Settings) (cache : Cache) (calls : List Call) (j : Nat) :
    (answers settings cache calls)[j]? = calls[j]?.map fun call =>
      (authenticate settings call.now (cacheAfter settings cache (calls.take j))
        call.authorization).1 := by
  induction calls generalizing cache j with
  | nil => rfl
  | cons first rest ih =>
      cases j with
      | zero => rfl
      | succ j => exact ih _ j

/-- An entry stays while its time is not past. -/
theorem mem_cacheAfter_of_mem {calls : List Call} (h : entry ∈ cache)
    (hcalls : ∀ call ∈ calls, call.now ≤ entry.2) : entry ∈ cacheAfter settings cache calls := by
  induction calls generalizing cache with
  | nil => exact h
  | cons first rest ih =>
      obtain ⟨hfirst, hrest⟩ := List.forall_mem_cons.mp hcalls
      exact ih (mem_authenticate_of_mem h hfirst) hrest

/-- What stands before a position of a sorted list precedes what stands there. -/
theorem rel_of_mem_take {α : Type} {R : α → α → Prop} {xs : List α} (h : xs.Pairwise R) {j : Nat}
    {a b : α} (hb : xs[j]? = some b) (ha : a ∈ xs.take j) : R a b := by
  refine h.rel_of_mem_take_of_mem_drop ha ?_
  rw [List.mem_iff_getElem?]
  exact ⟨0, by rw [List.getElem?_drop, Nat.add_zero, hb]⟩

/-- While an entry is in the cache, no call with its identifier is accepted until the time
of the entry is past, however many calls are made in between. -/
theorem lt_now_of_answers {calls : List Call} (hmem : entry ∈ cache)
    (hclock : calls.Pairwise fun a b => a.now ≤ b.now) {j : Nat} {call : Call}
    (hcall : calls[j]? = some call)
    (hanswer : (answers settings cache calls)[j]? = some (.ok account))
    (hclaim : verify settings.leeway call.now call.authorization = .ok claim)
    (hid : entry.1 = claim.id) : entry.2 < call.now := by
  rw [getElem?_answers, hcall, Option.map_some, Option.some.injEq] at hanswer
  obtain ⟨claim', hclaim', htake, -⟩ := authenticate_eq_ok_iff.mp hanswer
  cases hclaim.symm.trans hclaim'
  by_contra hlate
  have hkept : entry ∈ cacheAfter settings cache (calls.take j) := by
    refine mem_cacheAfter_of_mem hmem ?_
    intro earlier hearlier
    exact Int.le_trans (rel_of_mem_take hclock hcall hearlier) (Int.not_lt.mp hlate)
  exact hlate ((Cache.take_eq_ok_iff.mp htake).2 entry hkept hid)

/-- Calls with one signed text are verified for one claim. -/
theorem claim_eq_of_signedText_eq {leeway : Int} {authorization' : Option Text} {claim' : Claim}
    (hclaim : verify leeway now authorization = .ok claim)
    (hclaim' : verify leeway later authorization' = .ok claim')
    (hsame : signedText authorization = signedText authorization') : claim = claim' := by
  obtain ⟨token, issued, htoken, hproves, -⟩ := verify_eq_ok_iff.mp hclaim
  obtain ⟨token', issued', htoken', hproves', -⟩ := verify_eq_ok_iff.mp hclaim'
  rw [signedText, signedText, htoken, htoken'] at hsame
  have hinput : token.signingInput = token'.signingInput := Option.some.inj hsame
  exact (hproves.eq_of_signingInput_eq htoken htoken' hinput hproves').2

/-- Two accepted calls with one signed text are for one account, the later one past the
entry of the earlier one and within the leeway. -/
theorem window_of_answers {calls : List Call}
    (hclock : calls.Pairwise fun a b => a.now ≤ b.now) {i j : Nat} (hij : i < j)
    {call call' : Call} (hcall : calls[i]? = some call) (hcall' : calls[j]? = some call')
    {account' : Bytes} (hanswer : (answers settings cache calls)[i]? = some (.ok account))
    (hanswer' : (answers settings cache calls)[j]? = some (.ok account'))
    (hsame : signedText call.authorization = signedText call'.authorization) :
    ∃ claim, verify settings.leeway call.now call.authorization = .ok claim ∧
      claim.id ≠ [] ∧ checkAction claim = .ok account ∧ account' = account ∧
      max claim.expiry (call.now + settings.idLifetime) < call'.now ∧
      call'.now ≤ claim.expiry + settings.leeway := by
  induction calls generalizing cache i j with
  | nil => cases hcall
  | cons first rest ih =>
      obtain ⟨-, hrest⟩ := List.pairwise_cons.mp hclock
      obtain ⟨j, rfl⟩ := Nat.exists_eq_succ_of_ne_zero (Nat.ne_zero_of_lt hij)
      cases i with
      | succ i => exact ih hrest (Nat.lt_of_succ_lt_succ hij) hcall hcall' hanswer hanswer'
      | zero =>
          cases hcall
          have hfirst := Option.some.inj hanswer
          obtain ⟨claim, hclaim, htake, haction⟩ := authenticate_eq_ok_iff.mp hfirst
          have hkept := mem_authenticate_self hclaim hfirst
          have hanswered := hanswer'
          rw [getElem?_answers, hcall', Option.map_some, Option.some.injEq] at hanswered
          obtain ⟨claim', hclaim', -, haction'⟩ := authenticate_eq_ok_iff.mp hanswered
          obtain rfl := claim_eq_of_signedText_eq hclaim hclaim' hsame
          refine ⟨claim, hclaim, (Cache.take_eq_ok_iff.mp htake).1, haction,
            Except.ok.inj (haction'.symm.trans haction), ?_, ?_⟩
          · exact lt_now_of_answers hkept hrest hcall' hanswer' hclaim' rfl
          · exact le_of_verify hclaim'

/-- A call that was accepted and is made again, with no other call in between, is accepted
again exactly in the window between the time of its entry and the end of the leeway. -/
theorem authenticate_again_iff (hclaim : verify settings.leeway now authorization = .ok claim)
    (h : (authenticate settings now cache authorization).1 = .ok account) (hlater : now ≤ later) :
    (authenticate settings later (authenticate settings now cache authorization).2
        authorization).1 = .ok account ↔
      max claim.expiry (now + settings.idLifetime) < later ∧
        later ≤ claim.expiry + settings.leeway := by
  obtain ⟨claim', hclaim', htake, haction⟩ := authenticate_eq_ok_iff.mp h
  cases hclaim.symm.trans hclaim'
  obtain ⟨hid, hpast⟩ := Cache.take_eq_ok_iff.mp htake
  constructor
  · intro hagain
    obtain ⟨claim', hclaim', htake', -⟩ := authenticate_eq_ok_iff.mp hagain
    obtain rfl := claim_eq_of_signedText_eq hclaim hclaim' rfl
    have hkept := mem_authenticate_self hclaim h
    exact ⟨(Cache.take_eq_ok_iff.mp htake').2 _ hkept rfl, (verify_of_le hclaim hlater).mp hclaim'⟩
  · rintro ⟨hswept, hvalid⟩
    refine authenticate_eq_ok_iff.mpr ⟨claim, (verify_of_le hclaim hlater).mpr hvalid, ?_, haction⟩
    refine Cache.take_eq_ok_iff.mpr ⟨hid, ?_⟩
    intro entry hentry heq
    rw [authenticate_of_ok hclaim] at hentry
    rcases (Cache.mem_take_of_eq_ok htake).mp hentry with ⟨hmem, hnow⟩ | rfl
    · exact absurd (hpast entry hmem heq) (Int.not_lt.mpr hnow)
    · exact hswept

end Run

/-- Holds for settings under which no signed text is accepted twice: of the calls of a run
from an empty cache whose clock does not go back, two that are answered with an account
present different texts as signed. -/
def AcceptsOnce (settings : Settings) : Prop :=
  ∀ calls : List Call, (calls.Pairwise fun a b => a.now ≤ b.now) →
    ∀ (i j : Nat) (call call' : Call) (account account' : Bytes), i < j →
      calls[i]? = some call → calls[j]? = some call' →
      (answers settings [] calls)[i]? = some (.ok account) →
      (answers settings [] calls)[j]? = some (.ok account') →
      signedText call.authorization ≠ signedText call'.authorization

/-- No signed text is accepted twice exactly if every token that can be accepted has expired,
leeway included, when its identifier is forgotten: at its expiry or at the end of the
lifetime, whichever is later. In any run and from any cache, a text is accepted again only
after that time and up to the expiry and the leeway. -/
theorem acceptsOnce_iff (settings : Settings) :
    (AcceptsOnce settings ↔
      ∀ (now : Int) (authorization : Option Text) (claim : Claim) (account : Bytes),
        verify settings.leeway now authorization = .ok claim → claim.id ≠ [] →
        checkAction claim = .ok account →
        claim.expiry + settings.leeway ≤ max claim.expiry (now + settings.idLifetime)) ∧
    ∀ (cache : Cache) (calls : List Call), (calls.Pairwise fun a b => a.now ≤ b.now) →
      ∀ (i j : Nat) (call call' : Call) (account account' : Bytes), i < j →
        calls[i]? = some call → calls[j]? = some call' →
        (answers settings cache calls)[i]? = some (.ok account) →
        (answers settings cache calls)[j]? = some (.ok account') →
        signedText call.authorization = signedText call'.authorization →
        ∃ claim, verify settings.leeway call.now call.authorization = .ok claim ∧
          account' = account ∧
          max claim.expiry (call.now + settings.idLifetime) < call'.now ∧
          call'.now ≤ claim.expiry + settings.leeway := by
  refine ⟨⟨?_, ?_⟩, ?_⟩
  · intro honce now authorization claim account hclaim hid haction
    by_contra hopen
    have hwindow := Int.not_le.mp hopen
    have hfirst : (authenticate settings now [] authorization).1 = .ok account :=
      authenticate_eq_ok_iff.mpr ⟨claim, hclaim, Cache.take_eq_ok_iff.mpr ⟨hid, nofun⟩, haction⟩
    have hlater : now ≤ claim.expiry + settings.leeway := le_of_verify hclaim
    have hagain := (authenticate_again_iff hclaim hfirst hlater).mpr ⟨hwindow, Int.le_refl _⟩
    exact honce [⟨now, authorization⟩, ⟨claim.expiry + settings.leeway, authorization⟩]
      (by simpa using hlater) 0 1 _ _ account account (by decide) rfl rfl
      (congrArg some hfirst) (congrArg some hagain) rfl
  · intro hclosed calls hclock i j call call' account account' hij hcall hcall' hanswer hanswer'
      hsame
    obtain ⟨claim, hclaim, hid, haction, -, hswept, hvalid⟩ :=
      window_of_answers hclock hij hcall hcall' hanswer hanswer' hsame
    have hend := hclosed call.now call.authorization claim account hclaim hid haction
    omega
  · intro cache calls hclock i j call call' account account' hij hcall hcall' hanswer hanswer'
      hsame
    obtain ⟨claim, hclaim, -, -, haccount, hwindow⟩ :=
      window_of_answers hclock hij hcall hcall' hanswer hanswer' hsame
    exact ⟨claim, hclaim, haccount, hwindow⟩

/-- An account and its signature of a token for an hour. -/
def hourAccount : Bytes :=
  [234, 74, 108, 99, 226, 156, 82, 10, 190, 245, 80, 123, 19, 46, 197, 249, 149, 71, 118, 174,
    190, 190, 123, 146, 66, 30, 234, 105, 20, 70, 210, 44]

@[inherit_doc hourAccount]
def hourSignature : Bytes :=
  [105, 90, 98, 71, 18, 224, 0, 36, 184, 56, 231, 94, 158, 100, 20, 117, 172, 94, 37, 103, 214,
    170, 124, 60, 45, 3, 85, 185, 75, 249, 12, 72, 112, 96, 87, 89, 218, 2, 186, 113, 135, 149,
    223, 79, 176, 227, 67, 2, 146, 119, 127, 45, 176, 95, 9, 1, 74, 95, 159, 203, 81, 175, 171,
    8]

/-- A token for an hour, as it is presented. -/
def hourToken : Text :=
  let name : Text := Base64.encodeUrl hourAccount
  let header : Json := .obj [("alg", .str "EdDSA"), ("kid", .str name)]
  let payload : Json := .obj [("sub", .str name), ("iat", .int 1700000000),
    ("exp", .int 1700003600), ("jti", .str "j"), ("act", .str "send")]
  "Bearer " ++ Compact.build (Utf8.encode (Json.writeCompact header))
    (Utf8.encode (Json.writeCompact payload)) hourSignature

theorem verify_hourToken : verify Settings.default.leeway 1700000000 (some hourToken) =
    .ok ⟨hourAccount, "j", 1700003600, some ("send" : Text)⟩ :=
  Attempt.eq_ok_of_toOption_eq_some (by decide +kernel)

/-- With the default settings a token for an hour that is accepted when it was issued is
accepted once more half a minute after it expired. -/
theorem hourToken_accepted_twice :
    answers .default [] [⟨1700000000, some hourToken⟩, ⟨1700003630, some hourToken⟩] =
      [.ok hourAccount, .ok hourAccount] := by
  have hfirst : (authenticate .default 1700000000 [] (some hourToken)).1 = .ok hourAccount :=
    authenticate_eq_ok_iff.mpr ⟨_, verify_hourToken, Cache.take_eq_ok_iff.mpr ⟨nofun, nofun⟩,
      by simp [checkAction, messageActions]⟩
  have hagain := (authenticate_again_iff verify_hourToken hfirst
    (by decide : (1700000000 : Int) ≤ 1700003630)).mpr (by decide)
  rw [answers, answers, answers, hfirst, hagain]

/-- So the default settings do not keep a token from being accepted twice. -/
theorem not_acceptsOnce_default : ¬ AcceptsOnce .default := by
  intro honce
  have hend := (acceptsOnce_iff .default).1.mp honce 1700000000 (some hourToken) _ hourAccount
    verify_hourToken nofun (by simp [checkAction, messageActions])
  revert hend
  decide

end SealedPost.Token
