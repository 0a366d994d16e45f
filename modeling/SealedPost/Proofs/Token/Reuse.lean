import SealedPost.Proofs.Token.Acceptance
import SealedPost.Proofs.Token.Refusals

/-!
# Which calls are refused as replays

A call is refused as a replay exactly if it convinces and an earlier call took an identifier
with the same text for a time that is not past. The text is all that counts: neither the
account of the earlier call nor the kind of value that the text was made from does.
-/

namespace SealedPost.Token

/-- A call that is not verified is refused for another reason. -/
theorem verify_ne_replayed (leeway now : Int) (authorization : Option Text) :
    verify leeway now authorization ≠ .error .replayed := by
  intro h
  rcases verify_eq_error_iff.mp h with h | ⟨token, -, hrefused⟩
  · rcases presented_eq_error h with h | h <;> cases h
  · cases hrefused with
    | account _ h => rcases claimedAccount_eq_error h with h | h | h <;> cases h
    | times _ _ h => cases (claimedTimes_eq_error_iff.mp h).1
    | clock _ _ _ h => rcases checkTimes_eq_error h with h | h | h <;> cases h
    | signature _ _ _ _ h => cases checkSignature_eq_error h

section Run

variable {settings : Settings} {cache : Cache} {now : Int} {authorization : Option Text}
  {entry : Text × Int}

/-- A call is refused as a replay exactly if it is verified and the cache has an entry of its
identifier whose time is not past. -/
theorem authenticate_eq_replayed_iff :
    (authenticate settings now cache authorization).1 = .error .replayed ↔
      ∃ claim, verify settings.leeway now authorization = .ok claim ∧ claim.id ≠ [] ∧
        ∃ entry ∈ cache, entry.1 = claim.id ∧ now ≤ entry.2 := by
  cases hverify : verify settings.leeway now authorization with
  | error refusal =>
      rw [authenticate_of_error hverify]
      constructor
      · intro h
        cases h
        exact absurd hverify (verify_ne_replayed _ _ _)
      · rintro ⟨claim, hclaim, -⟩
        cases hclaim
  | ok claim =>
      rw [authenticate_of_ok hverify]
      simp only [Except.ok.injEq, exists_eq_left']
      obtain ⟨hid, htake⟩ | ⟨hid, hlive, htake⟩ | ⟨hid, hpast, htake⟩ :=
        Cache.take_cases cache settings.idLifetime claim.id now claim.expiry
      · rw [htake]
        constructor
        · intro h
          cases h
        · rintro ⟨hsome, -⟩
          exact absurd hid hsome
      · rw [htake]
        constructor
        · intro _
          exact ⟨hid, hlive⟩
        · intro _
          rfl
      · rw [htake]
        constructor
        · intro h
          cases checkAction_eq_error h
        · rintro ⟨-, entry, hentry, heq, hnow⟩
          exact absurd (hpast entry hentry heq) (Int.not_lt.mpr hnow)

/-- A call of a run from an empty cache takes the identifier of its token: it convinces, and
the cache that the calls before it left lets it take the identifier. -/
structure Takes (settings : Settings) (calls : List Call) (i : Nat) (call : Call)
    (token : Compact) (account : Bytes) (issued expiry : Int) : Prop where
  call_eq : calls[i]? = some call
  convinces : Convinces settings.leeway call.now call.authorization token account issued expiry
  taken : ((cacheAfter settings [] (calls.take i)).take settings.idLifetime
    (idText token.payload) call.now expiry).1 = .ok ()

variable {calls : List Call} {i j : Nat} {call earlier : Call} {token : Compact}
  {account : Bytes} {issued expiry : Int}

/-- What a call took is in the cache right after it. -/
theorem Takes.mem_cacheAfter (h : Takes settings calls i call token account issued expiry) :
    (idText token.payload, max expiry (call.now + settings.idLifetime)) ∈
      cacheAfter settings [] (calls.take (i + 1)) := by
  have hnext : calls.take (i + 1) = calls.take i ++ [call] := by
    rw [List.take_add_one, h.call_eq, Option.toList_some]
  rw [hnext, cacheAfter_append_singleton, authenticate_of_ok h.convinces.verify_eq]
  exact (Cache.mem_take_of_eq_ok h.taken).mpr (.inr rfl)

/-- Until its time is past, what a call took is in the cache of every later call. -/
theorem Takes.mem_cacheAfter_of_lt
    (h : Takes settings calls i earlier token account issued expiry)
    (hclock : calls.Pairwise fun a b => a.now ≤ b.now) (hij : i < j) (hcall : calls[j]? = some call)
    (hnow : call.now ≤ max expiry (earlier.now + settings.idLifetime)) :
    (idText token.payload, max expiry (earlier.now + settings.idLifetime)) ∈
      cacheAfter settings [] (calls.take j) := by
  have hsplit : calls.take j = calls.take (i + 1) ++ (calls.take j).drop (i + 1) := by
    have htake : (calls.take j).take (i + 1) = calls.take (i + 1) := by
      rw [List.take_take, Nat.min_eq_left hij]
    rw [← htake, List.take_append_drop]
  rw [hsplit, cacheAfter_append]
  -- A call in between is not later than the last one, for which the time is not past.
  refine mem_cacheAfter_of_mem h.mem_cacheAfter ?_
  intro between hbetween
  exact Int.le_trans (rel_of_mem_take hclock hcall (List.mem_of_mem_drop hbetween)) hnow

end Run

/-- From an empty cache and with a clock that does not go back, a call is refused as a replay
exactly if it convinces and an earlier call of the run, which convinced too, took an identifier
with the same text and keeps it to a time that is not past. -/
theorem replayed_iff_taken_before (settings : Settings) (calls : List Call)
    (hclock : calls.Pairwise fun a b => a.now ≤ b.now) {j : Nat} {call : Call}
    (hcall : calls[j]? = some call) :
    (answers settings [] calls)[j]? = some (.error .replayed) ↔
      ∃ token account issued expiry,
        Convinces settings.leeway call.now call.authorization token account issued expiry ∧
        ∃ i earlier token' account' issued' expiry', i < j ∧
          Takes settings calls i earlier token' account' issued' expiry' ∧
          idText token'.payload = idText token.payload ∧
          call.now ≤ max expiry' (earlier.now + settings.idLifetime) := by
  rw [getElem?_answers, hcall, Option.map_some, Option.some.injEq, authenticate_eq_replayed_iff]
  constructor
  · rintro ⟨claim, hclaim, -, entry, hentry, heq, hnow⟩
    obtain ⟨token, issued, hconvinces, hid, -⟩ := verify_eq_ok_iff_convinces.mp hclaim
    refine ⟨token, claim.account, issued, claim.expiry, hconvinces, ?_⟩
    rcases mem_or_takes_of_mem_cacheAfter hentry with
      hnone | ⟨i, earlier, claim', hearlier, hclaim', htaken, rfl⟩
    · cases hnone
    · obtain ⟨token', issued', hconvinces', hid', -⟩ := verify_eq_ok_iff_convinces.mp hclaim'
      obtain ⟨hij, hearlier⟩ := Option.ite_none_right_eq_some.mp
        (List.getElem?_take.symm.trans hearlier)
      rw [List.take_take, Nat.min_eq_left (Nat.le_of_lt hij), hid'] at htaken
      refine ⟨i, earlier, token', claim'.account, issued', claim'.expiry, hij,
        ⟨hearlier, hconvinces', htaken⟩, ?_, hnow⟩
      rw [← hid', ← hid]
      exact heq
  · rintro ⟨token, account, issued, expiry, hconvinces, i, earlier, token', account', issued',
      expiry', hij, htakes, hid, hnow⟩
    have hentry := htakes.mem_cacheAfter_of_lt hclock hij hcall hnow
    refine ⟨_, hconvinces.verify_eq, ?_, _, hentry, hid, hnow⟩
    rw [← hid]
    exact (Cache.take_eq_ok_iff.mp htakes.taken).1

/-- Holds of a run in which a call is refused as a replay only if an earlier call took the
identifier of a token of the same account, and took it from the same value. -/
def AlarmsWithinAccount (settings : Settings) (calls : List Call) : Prop :=
  ∀ (j : Nat) (call : Call), calls[j]? = some call →
    (answers settings [] calls)[j]? = some (.error .replayed) →
    ∃ token account issued expiry,
      Convinces settings.leeway call.now call.authorization token account issued expiry ∧
      ∃ i earlier token' account' issued' expiry', i < j ∧
        Takes settings calls i earlier token' account' issued' expiry' ∧
        account' = account ∧
        Json.member? "jti" token'.payload = Json.member? "jti" token.payload

section Sample

/-- A token for an hour whose identifier is the text of a seven. -/
def textSeven : Text := hourTokenOf hourAccount (.str "7")
  [206, 194, 107, 217, 125, 52, 89, 131, 192, 250, 124, 197, 135, 20, 100, 128, 154, 222, 197,
    88, 158, 37, 65, 249, 178, 197, 62, 115, 190, 106, 42, 143, 90, 185, 124, 70, 83, 20, 213,
    130, 25, 151, 117, 211, 118, 101, 238, 180, 151, 118, 42, 152, 125, 177, 225, 84, 38, 120,
    233, 6, 166, 246, 191, 15]

/-- A token of the same account whose identifier is the number seven. -/
def numberSeven : Text := hourTokenOf hourAccount (.int 7)
  [227, 79, 11, 64, 231, 160, 166, 173, 167, 82, 37, 192, 195, 246, 223, 82, 47, 162, 199, 19,
    219, 102, 253, 14, 167, 80, 233, 149, 44, 150, 58, 219, 64, 200, 86, 201, 126, 224, 219,
    186, 199, 57, 39, 84, 91, 121, 91, 155, 123, 171, 105, 72, 181, 52, 3, 153, 245, 35, 50,
    172, 219, 106, 80, 9]

/-- Another account. -/
def otherAccount : Bytes :=
  [253, 23, 36, 56, 90, 160, 199, 91, 100, 251, 120, 205, 96, 47, 161, 217, 145, 253, 235, 247,
    107, 19, 197, 142, 215, 2, 234, 200, 53, 233, 246, 24]

/-- A token of the other account whose identifier is the text of a seven. -/
def otherSeven : Text := hourTokenOf otherAccount (.str "7")
  [211, 79, 183, 49, 69, 151, 125, 245, 208, 222, 75, 45, 62, 255, 252, 198, 150, 27, 160, 146,
    6, 148, 217, 225, 70, 181, 224, 186, 57, 163, 220, 46, 40, 202, 210, 3, 218, 145, 103, 198,
    239, 152, 113, 217, 164, 192, 36, 168, 220, 146, 71, 154, 182, 212, 74, 235, 194, 98, 54,
    46, 214, 231, 233, 5]

/-- The three tokens, presented one after the other. -/
def sevens : List Call :=
  [⟨1700000000, some textSeven⟩, ⟨1700000000, some numberSeven⟩, ⟨1700000000, some otherSeven⟩]

theorem verify_textSeven : verify Settings.default.leeway 1700000000 (some textSeven) =
    .ok ⟨hourAccount, "7", 1700003600, some ("send" : Text)⟩ :=
  Attempt.eq_ok_of_toOption_eq_some (by decide +kernel)

theorem verify_numberSeven : verify Settings.default.leeway 1700000000 (some numberSeven) =
    .ok ⟨hourAccount, "7", 1700003600, some ("send" : Text)⟩ :=
  Attempt.eq_ok_of_toOption_eq_some (by decide +kernel)

theorem verify_otherSeven : verify Settings.default.leeway 1700000000 (some otherSeven) =
    .ok ⟨otherAccount, "7", 1700003600, some ("send" : Text)⟩ :=
  Attempt.eq_ok_of_toOption_eq_some (by decide +kernel)

/-- The text in the identifier that an authorization presents, if it is a text there. -/
def presentedIdText? (authorization : Option Text) : Option Text :=
  (presented authorization).toOption.bind fun token =>
    (Json.member? "jti" token.payload).bind Json.text?

theorem presentedIdText?_textSeven : presentedIdText? (some textSeven) = some ("7" : Text) := by
  decide +kernel

theorem presentedIdText?_numberSeven : presentedIdText? (some numberSeven) = none := by
  decide +kernel

/-- Of the three tokens only the first is accepted. -/
theorem answers_sevens :
    answers .default [] sevens = [.ok hourAccount, .error .replayed, .error .replayed] := by
  simp only [sevens, answers, authenticate_of_ok verify_textSeven,
    authenticate_of_ok verify_numberSeven, authenticate_of_ok verify_otherSeven]
  rfl

theorem Convinces.presentedIdText?_eq {leeway now issued expiry : Int}
    {authorization : Option Text} {token : Compact} {account : Bytes}
    (h : Convinces leeway now authorization token account issued expiry) :
    presentedIdText? authorization = (Json.member? "jti" token.payload).bind Json.text? := by
  rw [presentedIdText?, presented_eq_ok_iff.mpr h.presents]
  rfl

/-- A token with the number is refused as a replay after one of the same account with the
text, and so is a token with the text after one of another account. -/
theorem seven_alarms_across_accounts :
    answers .default [] sevens = [.ok hourAccount, .error .replayed, .error .replayed] ∧
    ¬ AlarmsWithinAccount .default
      [⟨1700000000, some textSeven⟩, ⟨1700000000, some numberSeven⟩] ∧
    ¬ AlarmsWithinAccount .default
      [⟨1700000000, some textSeven⟩, ⟨1700000000, some otherSeven⟩] := by
  refine ⟨answers_sevens, ?_, ?_⟩
  · intro hwithin
    have hrefused : (answers .default [] [⟨1700000000, some textSeven⟩,
        ⟨1700000000, some numberSeven⟩])[1]? = some (.error .replayed) := by
      simp only [answers, authenticate_of_ok verify_textSeven,
        authenticate_of_ok verify_numberSeven]
      rfl
    obtain ⟨token, account, issued, expiry, h, i, earlier, token', account', issued', expiry',
      hi, h', -, hvalue⟩ := hwithin 1 _ rfl hrefused
    obtain rfl := Nat.lt_one_iff.mp hi
    cases h'.call_eq
    have hnumber := h.presentedIdText?_eq
    rw [← hvalue, ← h'.convinces.presentedIdText?_eq, presentedIdText?_textSeven,
      presentedIdText?_numberSeven] at hnumber
    cases hnumber
  · intro hwithin
    have hrefused : (answers .default [] [⟨1700000000, some textSeven⟩,
        ⟨1700000000, some otherSeven⟩])[1]? = some (.error .replayed) := by
      simp only [answers, authenticate_of_ok verify_textSeven,
        authenticate_of_ok verify_otherSeven]
      rfl
    obtain ⟨token, account, issued, expiry, h, i, earlier, token', account', issued', expiry',
      hi, h', haccount, -⟩ := hwithin 1 _ rfl hrefused
    obtain rfl := Nat.lt_one_iff.mp hi
    cases h'.call_eq
    have hother := h.verify_eq.symm.trans verify_otherSeven
    have hhour := h'.convinces.verify_eq.symm.trans verify_textSeven
    simp only [Except.ok.injEq, Claim.mk.injEq] at hother hhour
    have hsame : hourAccount = otherAccount := by rw [← hhour.1, ← hother.1, haccount]
    revert hsame
    decide

/-- The token of the other account is refused since an earlier call took the text. -/
theorem otherSeven_replayed_after_textSeven :
    ∃ token account issued expiry,
      Convinces Settings.default.leeway 1700000000 (some otherSeven) token account issued expiry ∧
      ∃ i earlier token' account' issued' expiry', i < 2 ∧
        Takes .default sevens i earlier token' account' issued' expiry' ∧
        idText token'.payload = idText token.payload ∧
        1700000000 ≤ max expiry' (earlier.now + Settings.default.idLifetime) :=
  (replayed_iff_taken_before .default sevens (by decide) rfl).mp (congrArg (·[2]?) answers_sevens)

end Sample

end SealedPost.Token
