import SealedPost.Ledger
import SealedPost.Proofs.Attempt

/-!
# What a sending does to a ledger

A message is accepted exactly if it is not empty, its envelope has the right shape and a
number is left for it. It is stored under its account and the number, both of which can be
read off the key again, and it is announced with the next index.
-/

namespace SealedPost

/-- The shape that the ledger asks of an envelope: there are channels, and every channel has
a sealed nonce and as many sealed participants as there are channels, none of them empty. -/
structure Envelope.WellShaped (e : Envelope) : Prop where
  channels : e.channels ≠ []
  nonces : ∀ c ∈ e.channels, c.sealedNonce ≠ []
  counts : ∀ c ∈ e.channels, c.sealedParticipants.length = e.channels.length
  participants : ∀ c ∈ e.channels, ∀ p ∈ c.sealedParticipants, p ≠ []

theorem Channel.defect?_eq_none_iff {count : Nat} {c : Channel} :
    c.defect? count = none ↔
      c.sealedNonce ≠ [] ∧ c.sealedParticipants.length = count ∧
        ∀ p ∈ c.sealedParticipants, p ≠ [] := by
  simp only [defect?, List.isEmpty_iff, List.any_eq_true]
  split
  · simp [*]
  · split
    · simp [*]
    · split
      · next hempty =>
          obtain ⟨p, hp, rfl⟩ := hempty
          exact ⟨nofun, fun h => absurd rfl (h.2.2 [] hp)⟩
      · next hnonce hcount hparticipants =>
          refine ⟨fun _ => ⟨hnonce, not_ne_iff.mp hcount, ?_⟩, fun _ => rfl⟩
          exact fun p hp hnil => hparticipants ⟨p, hp, hnil⟩

theorem Envelope.defect?_eq_none_iff {e : Envelope} : e.defect? = none ↔ e.WellShaped := by
  simp only [defect?, List.isEmpty_iff]
  split
  · next hempty => exact ⟨nofun, fun h => absurd hempty h.channels⟩
  · next hsome =>
      simp only [List.findSome?_eq_none_iff, Channel.defect?_eq_none_iff]
      constructor
      · intro h
        exact ⟨hsome, fun c hc => (h c hc).1, fun c hc => (h c hc).2.1, fun c hc => (h c hc).2.2⟩
      · intro h c hc
        exact ⟨h.nonces c hc, h.counts c hc, h.participants c hc⟩

namespace Ledger

theorem check_eq_ok_iff {message : Bytes} {e : Envelope} :
    check message e = .ok () ↔ message ≠ [] ∧ e.WellShaped := by
  simp only [check, List.isEmpty_iff, ← Envelope.defect?_eq_none_iff]
  split
  · simp [*]
  · cases e.defect? <;> simp [*]

/-- The key under which the message with a number is stored. -/
def keyAt (account : Bytes) (number : Nat) : Bytes := account ++ Bytes.ofNat 16 number

/-- The account that a key names. -/
def accountOf (key : Bytes) : Bytes := key.take (key.length - 16)

/-- The number that a key ends in. -/
def numberOf (key : Bytes) : Nat := Bytes.toNat (key.drop (key.length - 16))

@[simp] theorem accountOf_keyAt (account : Bytes) (number : Nat) :
    accountOf (keyAt account number) = account := by
  simp [accountOf, keyAt]

theorem numberOf_keyAt (account : Bytes) {number : Nat} (h : (number : Int) ≤ counterLimit) :
    numberOf (keyAt account number) = number := by
  have hfits : number < Nat.pow 256 16 := by
    have hpow : Nat.pow 256 16 = Nat.pow 2 128 := by decide
    rw [counterLimit] at h
    omega
  simp [numberOf, keyAt, Bytes.toNat_ofNat hfits]

theorem key_eq_ok_iff {account : Bytes} {counter : Int} {key : Bytes} :
    Ledger.key account counter = .ok key ↔
      0 ≤ counter ∧ counter ≤ counterLimit ∧ key = keyAt account counter.toNat := by
  rw [Ledger.key]
  split
  · simp; omega
  · split
    · simp; omega
    · simp only [Except.ok.injEq, keyAt, @eq_comm _ key]
      constructor
      · intro h
        exact ⟨by omega, by omega, h⟩
      · exact fun h => h.2.2

/-- A sending is accepted exactly if message and envelope have the right form and the counter
is a number below the last one; the message is then stored under that number. -/
theorem send_eq_ok_iff {l l' : Ledger} {account message : Bytes} {e : Envelope}
    {a : Announcement} :
    l.send account e message = .ok (a, l') ↔
      (message ≠ [] ∧ e.WellShaped) ∧ (0 ≤ l.counter ∧ l.counter < counterLimit) ∧
        (a, l') = l.store (keyAt account l.counter.toNat) e message := by
  simp only [send, Attempt.bind_eq_ok_iff]
  constructor
  · rintro ⟨⟨⟩, hcheck, h⟩
    split at h
    · cases h
    · next hleft =>
        simp only [Attempt.bind_eq_ok_iff, Attempt.pure_eq_ok_iff] at h
        obtain ⟨key, hkey, hstore⟩ := h
        obtain ⟨hcounter, -, rfl⟩ := key_eq_ok_iff.mp hkey
        exact ⟨check_eq_ok_iff.mp hcheck, ⟨hcounter, Int.not_le.mp hleft⟩, hstore.symm⟩
  · rintro ⟨hform, ⟨hcounter, hleft⟩, hstore⟩
    refine ⟨(), check_eq_ok_iff.mpr hform, ?_⟩
    rw [if_neg (Int.not_le.mpr hleft), hstore]
    refine Attempt.bind_eq_ok_iff.mpr ⟨_, ?_, rfl⟩
    exact key_eq_ok_iff.mpr ⟨hcounter, Int.le_of_lt hleft, rfl⟩

/-- A message under a new key is put behind the others. -/
theorem setMessage_of_forall_ne {key message : Bytes} {messages : List (Bytes × Bytes)}
    (h : ∀ m ∈ messages, m.1 ≠ key) :
    setMessage key message messages = messages ++ [(key, message)] := by
  induction messages with
  | nil => rfl
  | cons m rest ih =>
      obtain ⟨hne, hrest⟩ := List.forall_mem_cons.mp h
      rw [setMessage, if_neg hne, ih hrest, List.cons_append]

/-- The events of a ledger carry their positions as indexes. -/
def Numbered (l : Ledger) : Prop :=
  ∀ (i : Nat) (a : Announcement), l.events[i]? = some a → a.index = i

theorem numbered_empty (counter : Int) : (empty counter).Numbered := by
  intro i a h
  cases h

/-- The event of an accepted message comes last and has the next index. -/
theorem event_of_send {l l' : Ledger} {account message : Bytes} {e : Envelope}
    {a : Announcement} (h : l.send account e message = .ok (a, l')) :
    a.index = l.events.length ∧ l'.events = l.events ++ [a] := by
  obtain ⟨-, -, hstore⟩ := send_eq_ok_iff.mp h
  cases hstore
  exact ⟨rfl, rfl⟩

theorem Numbered.send {l l' : Ledger} {account message : Bytes} {e : Envelope}
    {a : Announcement} (hl : l.Numbered) (h : l.send account e message = .ok (a, l')) :
    l'.Numbered := by
  obtain ⟨hindex, hevents⟩ := event_of_send h
  intro i b hb
  rw [hevents, List.getElem?_append] at hb
  split at hb
  · exact hl i b hb
  · rw [List.getElem?_singleton] at hb
    split at hb
    · obtain rfl := Option.some.inj hb
      omega
    · cases hb

/-- Every index below the number of events is that of an event. -/
theorem Numbered.exists_index_iff {l : Ledger} (h : l.Numbered) {index : Int} :
    (∃ a ∈ l.events, a.index = index) ↔ 0 ≤ index ∧ index < l.events.length := by
  constructor
  · rintro ⟨a, ha, rfl⟩
    obtain ⟨i, hi⟩ := List.mem_iff_getElem?.mp ha
    have hlt : i < l.events.length := (List.getElem?_eq_some_iff.mp hi).1
    rw [h i a hi]
    omega
  · rintro ⟨hnonneg, hlt⟩
    have hi : index.toNat < l.events.length := by omega
    refine ⟨l.events[index.toNat], List.getElem_mem hi, ?_⟩
    rw [h index.toNat _ (List.getElem?_eq_getElem hi)]
    omega

theorem Numbered.pairwise_index {l : Ledger} (h : l.Numbered) :
    l.events.Pairwise fun a b => a.index < b.index := by
  refine List.pairwise_iff_getElem.mpr fun i j hi hj hij => ?_
  rw [h i _ (List.getElem?_eq_getElem hi), h j _ (List.getElem?_eq_getElem hj)]
  omega

/-- The events from an index on are those whose index is not below it, in order. -/
theorem Numbered.eventsSince_eq_filter {l : Ledger} (h : l.Numbered) (since : Int) :
    l.eventsSince since = l.events.filter fun a => since ≤ a.index := by
  have hbefore : (l.events.take since.toNat).filter (fun a => decide (since ≤ a.index)) = [] := by
    refine List.filter_eq_nil_iff.mpr fun a ha => ?_
    obtain ⟨i, hi⟩ := List.mem_iff_getElem?.mp ha
    rw [List.getElem?_take] at hi
    split at hi
    · rw [h i a hi, decide_eq_true_iff]
      omega
    · cases hi
  have hafter : (l.events.drop since.toNat).filter (fun a => decide (since ≤ a.index)) =
      l.events.drop since.toNat := by
    refine List.filter_eq_self.mpr fun a ha => ?_
    obtain ⟨i, hi⟩ := List.mem_iff_getElem?.mp ha
    rw [List.getElem?_drop] at hi
    rw [h _ a hi, decide_eq_true_iff]
    omega
  calc
    l.eventsSince since = (l.events.drop since.toNat).filter fun a => decide (since ≤ a.index) :=
      hafter.symm
    _ = (l.events.take since.toNat ++ l.events.drop since.toNat).filter
        fun a => decide (since ≤ a.index) := by
      rw [List.filter_append, hbefore, List.nil_append]
    _ = l.events.filter fun a => decide (since ≤ a.index) := by rw [List.take_append_drop]

theorem Numbered.nodup_index_eventsSince {l : Ledger} (h : l.Numbered) (since : Int) :
    ((l.eventsSince since).map Announcement.index).Nodup := by
  rw [h.eventsSince_eq_filter]
  refine List.pairwise_map.mpr ?_
  exact (h.pairwise_index.filter _).imp fun hlt => Int.ne_of_lt hlt

theorem Numbered.mem_index_eventsSince_iff {l : Ledger} (h : l.Numbered) {since : Int}
    (hsince : 0 ≤ since) (index : Int) :
    index ∈ (l.eventsSince since).map Announcement.index ↔
      since ≤ index ∧ index < l.events.length := by
  have hposted : (∃ a ∈ l.events, a.index = index) ↔ 0 ≤ index ∧ index < l.events.length :=
    h.exists_index_iff
  simp only [h.eventsSince_eq_filter, List.mem_map, List.mem_filter, decide_eq_true_eq]
  constructor
  · rintro ⟨a, ⟨ha, hle⟩, rfl⟩
    exact ⟨hle, (hposted.mp ⟨a, ha, rfl⟩).2⟩
  · rintro ⟨hle, hlt⟩
    obtain ⟨a, ha, rfl⟩ := hposted.mpr ⟨by omega, hlt⟩
    exact ⟨a, ⟨ha, hle⟩, rfl⟩

end Ledger
end SealedPost
