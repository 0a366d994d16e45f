import SealedPost.Proofs.Ledger.Sending

/-!
# What a ledger refuses

A ledger refuses a message for the first thing that is wrong with it: the message is looked at
before the envelope, the channels of the envelope one after the other, and the counter comes last.
Nothing is changed before all of this has been looked at, so a refusal leaves the ledger as it was.
-/

namespace SealedPost

/-- A channel has the shape that an envelope with a number of channels asks for. -/
structure Channel.Sound (count : Nat) (c : Channel) : Prop where
  nonce : c.sealedNonce ≠ []
  participantCount : c.sealedParticipants.length = count
  participants : ∀ p ∈ c.sealedParticipants, p ≠ []

/-- What is wrong with a channel first: the nonce, the number of participants, or one of them. -/
inductive Channel.FirstDefect (count : Nat) (c : Channel) : ShapeDefect → Prop
  | emptyNonce (hnonce : c.sealedNonce = []) : FirstDefect count c .emptyNonce
  | participantCount (hnonce : c.sealedNonce ≠ [])
      (hcount : c.sealedParticipants.length ≠ count) : FirstDefect count c .participantCount
  | emptyParticipant (hnonce : c.sealedNonce ≠ []) (hcount : c.sealedParticipants.length = count)
      (hempty : [] ∈ c.sealedParticipants) : FirstDefect count c .emptyParticipant

/-- What is wrong with an envelope first: that there are no channels, or what is wrong with the
first channel that is not sound. -/
inductive Envelope.FirstDefect (e : Envelope) : ShapeDefect → Prop
  | noChannels (hchannels : e.channels = []) : FirstDefect e .noChannels
  | channel {before : List Channel} {c : Channel} {after : List Channel} {defect : ShapeDefect}
      (hchannels : e.channels = before ++ c :: after)
      (hbefore : ∀ b ∈ before, b.Sound e.channels.length)
      (hc : c.FirstDefect e.channels.length defect) : FirstDefect e defect

theorem Channel.sound_iff {count : Nat} {c : Channel} :
    c.Sound count ↔ c.defect? count = none := by
  rw [defect?_eq_none_iff]
  exact ⟨fun h => ⟨h.nonce, h.participantCount, h.participants⟩, fun h => ⟨h.1, h.2.1, h.2.2⟩⟩

theorem Channel.defect?_eq_some_iff {count : Nat} {c : Channel} {defect : ShapeDefect} :
    c.defect? count = some defect ↔ c.FirstDefect count defect := by
  constructor
  · intro h
    simp only [defect?, List.isEmpty_iff, List.any_eq_true] at h
    split at h
    · next hnonce =>
        cases h
        exact .emptyNonce hnonce
    · next hnonce =>
        split at h
        · next hcount =>
            cases h
            exact .participantCount hnonce hcount
        · next hcount =>
            split at h
            · next hempty =>
                obtain ⟨p, hp, rfl⟩ := hempty
                cases h
                exact .emptyParticipant hnonce (not_ne_iff.mp hcount) hp
            · cases h
  · intro h
    cases h with
    | emptyNonce hnonce => simp [defect?, hnonce]
    | participantCount hnonce hcount => simp [defect?, hnonce, hcount]
    | emptyParticipant hnonce hcount hempty =>
        have hany : c.sealedParticipants.any List.isEmpty = true :=
          List.any_eq_true.mpr ⟨[], hempty, rfl⟩
        simp [defect?, hnonce, hcount, hany]

theorem Envelope.defect?_eq_some_iff {e : Envelope} {defect : ShapeDefect} :
    e.defect? = some defect ↔ e.FirstDefect defect := by
  constructor
  · intro h
    simp only [defect?, List.isEmpty_iff] at h
    split at h
    · next hchannels =>
        cases h
        exact .noChannels hchannels
    · obtain ⟨before, c, after, hchannels, hc, hbefore⟩ := List.findSome?_eq_some_iff.mp h
      exact .channel hchannels (fun b hb => Channel.sound_iff.mpr (hbefore b hb))
        (Channel.defect?_eq_some_iff.mp hc)
  · intro h
    cases h with
    | noChannels hchannels => simp [defect?, hchannels]
    | @channel before c after _ hchannels hbefore hc =>
        have hsome : e.channels.isEmpty = false := by simp [hchannels]
        rw [defect?, hsome, if_neg Bool.false_ne_true]
        apply List.findSome?_eq_some_iff.mpr
        exact ⟨before, c, after, hchannels, Channel.defect?_eq_some_iff.mpr hc,
          fun b hb => Channel.sound_iff.mp (hbefore b hb)⟩

namespace Ledger

/-- Why a ledger refuses a message with its envelope: what is wrong first, in the order message,
envelope, counter. -/
inductive Refuses (l : Ledger) (message : Bytes) (e : Envelope) : LedgerFault → Prop
  | emptyMessage (hmessage : message = []) : Refuses l message e .emptyMessage
  | envelopeShape {defect : ShapeDefect} (hmessage : message ≠ [])
      (hdefect : e.FirstDefect defect) : Refuses l message e (.envelopeShape defect)
  | counterExhausted (hmessage : message ≠ []) (hshape : e.WellShaped)
      (hcounter : counterLimit ≤ l.counter) : Refuses l message e .counterExhausted

theorem check_eq_error_iff {message : Bytes} {e : Envelope} {fault : LedgerFault} :
    check message e = .error fault ↔ (message = [] ∧ fault = .emptyMessage) ∨
      message ≠ [] ∧ ∃ defect, e.FirstDefect defect ∧ fault = .envelopeShape defect := by
  simp only [check, List.isEmpty_iff, ← Envelope.defect?_eq_some_iff]
  split
  · next hmessage => simp [hmessage, eq_comm]
  · next hmessage => cases e.defect? <;> simp [hmessage, eq_comm]

/-- A ledger whose counter is a number refuses a message for what is wrong first. -/
theorem send_eq_error_iff {l : Ledger} (hcounter : 0 ≤ l.counter) {account message : Bytes}
    {e : Envelope} {fault : LedgerFault} :
    l.send account e message = .error fault ↔ l.Refuses message e fault := by
  simp only [send, Attempt.bind_eq_error_iff, check_eq_error_iff]
  constructor
  · rintro (hcheck | ⟨⟨⟩, hcheck, h⟩)
    · rcases hcheck with ⟨hmessage, rfl⟩ | ⟨hmessage, defect, hdefect, rfl⟩
      · exact .emptyMessage hmessage
      · exact .envelopeShape hmessage hdefect
    · obtain ⟨hmessage, hshape⟩ := check_eq_ok_iff.mp hcheck
      split at h
      · next hexhausted =>
          cases h
          exact .counterExhausted hmessage hshape hexhausted
      · next hleft =>
          -- A number is left, so there is a key, and nothing after that fails.
          have hkey : Ledger.key account l.counter = .ok (keyAt account l.counter.toNat) :=
            key_eq_ok_iff.mpr ⟨hcounter, Int.le_of_lt (Int.not_le.mp hleft), rfl⟩
          rw [hkey] at h
          cases h
  · intro h
    cases h with
    | emptyMessage hmessage => exact .inl (.inl ⟨hmessage, rfl⟩)
    | envelopeShape hmessage hdefect => exact .inl (.inr ⟨hmessage, _, hdefect, rfl⟩)
    | counterExhausted hmessage hshape hexhausted =>
        refine .inr ⟨(), check_eq_ok_iff.mpr ⟨hmessage, hshape⟩, ?_⟩
        rw [if_pos hexhausted]
        rfl

/-- The steps of a sending on a ledger that changes: what one step has changed stays changed if a
later one fails. -/
def sendStepwise (account : Bytes) (e : Envelope) (message : Bytes) :
    EStateM LedgerFault Ledger Announcement := do
  MonadExcept.ofExcept (check message e)
  if counterLimit ≤ (← get).counter then throw .counterExhausted
  let key ← MonadExcept.ofExcept (Ledger.key account (← get).counter)
  modify fun l => { l with messages := setMessage key message l.messages }
  modify fun l => { l with counter := l.counter + 1 }
  let event : Announcement := ⟨(← get).events.length, key, e⟩
  modify fun l => { l with events := l.events ++ [event] }
  pure event

/-- A step that changes nothing, or fails. -/
theorem run_ofExcept {α : Type} (x : Except LedgerFault α) (l : Ledger) :
    (MonadExcept.ofExcept x : EStateM LedgerFault Ledger α).run l =
      match x with
      | .ok a => .ok a l
      | .error fault => .error fault l := by
  cases x <;> rfl

/-- Taken step by step, a sending is what it is as one step: where one of the steps fails, none
has changed the ledger. -/
theorem run_sendStepwise (l : Ledger) (account : Bytes) (e : Envelope) (message : Bytes) :
    (sendStepwise account e message).run l =
      match l.send account e message with
      | .ok (event, l') => .ok event l'
      | .error fault => .error fault l := by
  simp only [sendStepwise, send, EStateM.run_bind, run_ofExcept, EStateM.run_get]
  -- The steps that can fail are the check, the guard and the key; the first change comes after.
  cases check message e with
  | error fault => rfl
  | ok =>
      simp only [Attempt.ok_bind]
      by_cases hexhausted : counterLimit ≤ l.counter
      · simp only [hexhausted, if_true]
        rfl
      · simp only [hexhausted, if_false, EStateM.run_bind, run_ofExcept, EStateM.run_get]
        cases key account l.counter with
        | error fault => rfl
        | ok key => rfl

theorem run_sendStepwise_eq_ok_iff {l l' : Ledger} {account message : Bytes} {e : Envelope}
    {event : Announcement} :
    (sendStepwise account e message).run l = .ok event l' ↔
      l.send account e message = .ok (event, l') := by
  rw [run_sendStepwise]
  cases l.send account e message with
  | error fault => simp
  | ok result => simp [Prod.ext_iff]

theorem run_sendStepwise_eq_error_iff {l l' : Ledger} {account message : Bytes} {e : Envelope}
    {fault : LedgerFault} :
    (sendStepwise account e message).run l = .error fault l' ↔
      l.send account e message = .error fault ∧ l' = l := by
  rw [run_sendStepwise]
  cases l.send account e message with
  | error fault' => simp [eq_comm]
  | ok result => simp

/-- A ledger whose counter is a number accepts exactly the messages that have the right form, with
an envelope that has, while a number is left. Any other it refuses for what is wrong first. Done
step by step, a sending comes to the same, and a refusal leaves the messages, the events and the
counter as they were. -/
theorem accepts_exactly_the_well_formed (l : Ledger) (hcounter : 0 ≤ l.counter) (account : Bytes)
    (e : Envelope) (message : Bytes) :
    ((∃ event l', l.send account e message = .ok (event, l')) ↔
      (message ≠ [] ∧ e.WellShaped) ∧ l.counter < counterLimit) ∧
    (∀ fault, l.send account e message = .error fault ↔ l.Refuses message e fault) ∧
    (∀ event l', (sendStepwise account e message).run l = .ok event l' ↔
      l.send account e message = .ok (event, l')) ∧
    ∀ fault l', (sendStepwise account e message).run l = .error fault l' ↔
      l.Refuses message e fault ∧ l' = l := by
  refine ⟨?_, fun fault => send_eq_error_iff hcounter, fun event l' => run_sendStepwise_eq_ok_iff,
    ?_⟩
  · constructor
    · rintro ⟨event, l', h⟩
      obtain ⟨hform, ⟨-, hleft⟩, -⟩ := send_eq_ok_iff.mp h
      exact ⟨hform, hleft⟩
    · rintro ⟨hform, hleft⟩
      exact ⟨_, _, send_eq_ok_iff.mpr ⟨hform, ⟨hcounter, hleft⟩, rfl⟩⟩
  · intro fault l'
    rw [run_sendStepwise_eq_error_iff, send_eq_error_iff hcounter]

/-- An envelope with a sound channel and two that are not, the second of them worse. -/
def spoiledEnvelope : Envelope :=
  ⟨[], [], [], [⟨[1], [[2], [2], [2]]⟩, ⟨[1], [[]]⟩, ⟨[], []⟩]⟩

/-- A ledger that has no number left refuses an empty message as empty, a spoiled envelope for the
first channel that is not sound, and others for the counter; a ledger that has one accepts them. -/
theorem full_ledger_refuses_in_order :
    let l := empty counterLimit
    let sound : Envelope := ⟨[], [], [], [⟨[1], [[2]]⟩]⟩
    0 ≤ l.counter ∧
    (sendStepwise [7] spoiledEnvelope []).run l = .error .emptyMessage l ∧
    (sendStepwise [7] spoiledEnvelope [3]).run l =
      .error (.envelopeShape .participantCount) l ∧
    (sendStepwise [7] sound [3]).run l = .error .counterExhausted l ∧
    ∃ event l', (empty 0).send [7] sound [3] = .ok (event, l') := by
  intro l sound
  have hcounter : 0 ≤ l.counter := by decide
  have hmessage : ([3] : Bytes) ≠ [] := List.cons_ne_nil 3 []
  have hsound : sound.WellShaped := Envelope.defect?_eq_none_iff.mp rfl
  have hspoiled : spoiledEnvelope.FirstDefect .participantCount :=
    Envelope.defect?_eq_some_iff.mp rfl
  refine ⟨hcounter, ?_, ?_, ?_, ?_⟩
  · exact ((accepts_exactly_the_well_formed l hcounter [7] spoiledEnvelope []).2.2.2 _ _).mpr
      ⟨.emptyMessage rfl, rfl⟩
  · exact ((accepts_exactly_the_well_formed l hcounter [7] spoiledEnvelope [3]).2.2.2 _ _).mpr
      ⟨.envelopeShape hmessage hspoiled, rfl⟩
  · exact ((accepts_exactly_the_well_formed l hcounter [7] sound [3]).2.2.2 _ _).mpr
      ⟨.counterExhausted hmessage hsound (Int.le_refl _), rfl⟩
  · exact (accepts_exactly_the_well_formed (empty 0) (Int.le_refl 0) [7] sound [3]).1.mpr
      ⟨⟨hmessage, hsound⟩, by decide⟩

end Ledger
end SealedPost
