import SealedPost.Proofs.Ledger.Sending
import SealedPost.Proofs.Lookup

/-!
# The history of a ledger

A ledger is determined by its first number and by the submissions that it accepted, in
order. Refused submissions leave no trace, and no number is used twice, so every key is new
when a message is stored under it and the message stays there.
-/

namespace SealedPost

/-- What an account sends to a ledger. -/
structure Submission where
  account : Bytes
  envelope : Envelope
  message : Bytes
deriving DecidableEq

/-- A submission whose message and envelope have the right form. -/
def Submission.WellFormed (s : Submission) : Prop := s.message ≠ [] ∧ s.envelope.WellShaped

namespace Ledger

/-- Whether a ledger accepts a submission. -/
def accepts (l : Ledger) (s : Submission) : Bool := (l.send s.account s.envelope s.message).isOk

/-- A ledger after a submission; a refusal leaves it as it was. -/
def submit (l : Ledger) (s : Submission) : Ledger :=
  match l.send s.account s.envelope s.message with
  | .ok (_, l') => l'
  | .error _ => l

/-- A ledger after submissions made one after the other. -/
def run (l : Ledger) (submissions : List Submission) : Ledger := submissions.foldl submit l

/-- The submissions that a ledger accepts of those made one after the other. -/
def accepted (l : Ledger) : List Submission → List Submission
  | [] => []
  | s :: rest =>
    if l.accepts s then s :: (l.submit s).accepted rest else (l.submit s).accepted rest

theorem run_append (l : Ledger) (submissions later : List Submission) :
    l.run (submissions ++ later) = (l.run submissions).run later :=
  List.foldl_append

/-- The ledger that holds the given submissions, numbered from a first number on. -/
def holding (first : Nat) (sent : List Submission) : Ledger where
  messages := sent.zipIdx.map fun entry =>
    (keyAt entry.1.account (first + entry.2), entry.1.message)
  events := sent.zipIdx.map fun entry =>
    ⟨entry.2, keyAt entry.1.account (first + entry.2), entry.1.envelope⟩
  counter := (first + sent.length : Nat)

section Holding

variable {first : Nat} {sent : List Submission}

theorem getElem?_events_holding (first : Nat) (sent : List Submission) (i : Nat) :
    (holding first sent).events[i]? =
      sent[i]?.map fun s => ⟨i, keyAt s.account (first + i), s.envelope⟩ := by
  simp [holding, List.getElem?_zipIdx, Function.comp_def]

theorem numbered_holding (first : Nat) (sent : List Submission) :
    (holding first sent).Numbered := by
  intro i a h
  rw [getElem?_events_holding] at h
  obtain ⟨s, -, rfl⟩ := Option.map_eq_some_iff.mp h
  rfl

theorem mem_messages_holding {key message : Bytes} :
    (key, message) ∈ (holding first sent).messages ↔
      ∃ i s, sent[i]? = some s ∧ keyAt s.account (first + i) = key ∧ s.message = message := by
  simp only [holding, List.mem_map, Prod.mk.injEq, Prod.exists, List.mk_mem_zipIdx_iff_getElem?]
  exact exists_comm

/-- The messages are stored under the keys that are announced. -/
theorem map_fst_messages_holding (first : Nat) (sent : List Submission) :
    (holding first sent).messages.map Prod.fst =
      (holding first sent).events.map Announcement.key := by
  simp [holding, Function.comp_def]

/-- All keys are different, since they end in different numbers. -/
theorem nodup_keys_holding (hfits : ((first + sent.length : Nat) : Int) ≤ counterLimit) :
    ((holding first sent).events.map Announcement.key).Nodup := by
  refine List.pairwise_iff_getElem.mpr ?_
  intro i j hi hj hij heq
  simp only [holding, List.map_map, List.length_map, List.length_zipIdx, List.getElem_map,
    List.getElem_zipIdx, Function.comp_apply, Nat.zero_add] at hi hj heq
  have hnumber := congrArg numberOf heq
  rw [numberOf_keyAt _ (by omega), numberOf_keyAt _ (by omega)] at hnumber
  omega

theorem get?_holding_eq_some_iff (hfits : ((first + sent.length : Nat) : Int) ≤ counterLimit)
    {key message : Bytes} :
    (holding first sent).get? key = some message ↔
      ∃ i s, sent[i]? = some s ∧ keyAt s.account (first + i) = key ∧ s.message = message := by
  have hnodup := nodup_keys_holding hfits
  rw [← map_fst_messages_holding] at hnodup
  rw [get?, Lookup.lookup_eq_some_iff_mem hnodup, mem_messages_holding]

/-- One more message goes behind those that the ledger holds. -/
theorem store_holding (hfits : ((first + sent.length : Nat) : Int) ≤ counterLimit)
    (s : Submission) :
    ((holding first sent).store
      (keyAt s.account (holding first sent).counter.toNat) s.envelope s.message).2 =
        holding first (sent ++ [s]) := by
  have hcounter : (holding first sent).counter.toNat = first + sent.length := rfl
  have hnew : ∀ m ∈ (holding first sent).messages,
      m.1 ≠ keyAt s.account (first + sent.length) := by
    rintro ⟨key, message⟩ hm heq
    obtain ⟨i, t, hi, rfl, rfl⟩ := mem_messages_holding.mp hm
    have hlt : i < sent.length := (List.getElem?_eq_some_iff.mp hi).1
    have hnumber := congrArg numberOf heq
    rw [numberOf_keyAt _ (by omega), numberOf_keyAt _ hfits] at hnumber
    omega
  rw [store, hcounter, setMessage_of_forall_ne hnew]
  simp [holding, List.zipIdx_append]
  omega

/-- A ledger either accepts a submission, which then has the right form and takes a number
that is left, or stays as it is. -/
theorem submit_holding_cases (hfits : ((first + sent.length : Nat) : Int) ≤ counterLimit)
    (s : Submission) :
    ((holding first sent).accepts s = true ∧ s.WellFormed ∧
      ((first + (sent ++ [s]).length : Nat) : Int) ≤ counterLimit ∧
      (holding first sent).submit s = holding first (sent ++ [s])) ∨
    ((holding first sent).accepts s = false ∧
      (holding first sent).submit s = holding first sent) := by
  unfold accepts submit
  cases hsend : (holding first sent).send s.account s.envelope s.message with
  | error fault => exact .inr ⟨rfl, rfl⟩
  | ok result =>
      obtain ⟨a, l'⟩ := result
      obtain ⟨hform, ⟨-, hleft⟩, hstore⟩ := send_eq_ok_iff.mp hsend
      have hleft : ((first + sent.length : Nat) : Int) < counterLimit := hleft
      refine .inl ⟨rfl, hform, ?_, ?_⟩
      · rw [List.length_append, List.length_singleton]
        omega
      · exact (congrArg Prod.snd hstore).trans (store_holding hfits s)

/-- Along a run the ledger holds what it held and what it accepted. -/
theorem run_holding (hfits : ((first + sent.length : Nat) : Int) ≤ counterLimit)
    (submissions : List Submission) :
    let sent' := sent ++ (holding first sent).accepted submissions
    (holding first sent).run submissions = holding first sent' ∧
      ((first + sent'.length : Nat) : Int) ≤ counterLimit ∧
      ∀ s ∈ (holding first sent).accepted submissions, s.WellFormed := by
  induction submissions generalizing sent with
  | nil => simpa [accepted, run] using hfits
  | cons s rest ih =>
      rw [run, List.foldl_cons, accepted]
      obtain ⟨haccepts, hform, hleft, hsubmit⟩ | ⟨haccepts, hsubmit⟩ :=
        submit_holding_cases hfits s
      · obtain ⟨hrun, hbound, hforms⟩ := ih hleft
        rw [List.append_assoc, List.singleton_append] at hrun hbound
        rw [haccepts, if_pos rfl, hsubmit]
        exact ⟨hrun, hbound, List.forall_mem_cons.mpr ⟨hform, hforms⟩⟩
      · rw [haccepts, if_neg Bool.false_ne_true, hsubmit]
        exact ih hfits

end Holding

/-- What a ledger with a first number shows after it accepted the given submissions. -/
structure Records (l : Ledger) (first : Nat) (sent : List Submission) : Prop where
  counter : l.counter = first + l.events.length
  counter_le : l.counter ≤ counterLimit
  length : l.events.length = sent.length
  /-- The events stand for the submissions in order, each with its position as index and a key
  from which the account and the number can be read, and under which the message is found. -/
  event : ∀ (i : Nat) (a : Announcement) (s : Submission), l.events[i]? = some a →
    sent[i]? = some s → a.index = i ∧ a.key = s.account ++ Bytes.ofNat 16 (first + i) ∧
      a.envelope = s.envelope ∧ accountOf a.key = s.account ∧ numberOf a.key = first + i ∧
      l.get? a.key = some s.message ∧ s.message ≠ [] ∧ a.envelope.WellShaped
  keys : (l.events.map Announcement.key).Nodup
  get?_eq_none : ∀ key, (∀ a ∈ l.events, a.key ≠ key) → l.get? key = none
  increasing : l.events.Pairwise fun a b => a.index < b.index
  since : ∀ since, l.eventsSince since = l.events.filter fun a => since ≤ a.index

theorem records_holding {first : Nat} {sent : List Submission}
    (hfits : ((first + sent.length : Nat) : Int) ≤ counterLimit)
    (hforms : ∀ s ∈ sent, s.WellFormed) : (holding first sent).Records first sent where
  counter := by simp [holding]
  counter_le := hfits
  length := by simp [holding]
  event := by
    intro i a s ha hs
    rw [getElem?_events_holding, hs] at ha
    obtain rfl := Option.some.inj ha
    have hlt : i < sent.length := (List.getElem?_eq_some_iff.mp hs).1
    obtain ⟨hmessage, hshape⟩ := hforms s (List.mem_of_getElem? hs)
    exact ⟨rfl, rfl, rfl, accountOf_keyAt .., numberOf_keyAt _ (by omega),
      (get?_holding_eq_some_iff hfits).mpr ⟨i, s, hs, rfl, rfl⟩, hmessage, hshape⟩
  keys := nodup_keys_holding hfits
  get?_eq_none := by
    intro key hkey
    refine Option.eq_none_iff_forall_ne_some.mpr fun message hmessage => ?_
    obtain ⟨i, s, hs, rfl, rfl⟩ := (get?_holding_eq_some_iff hfits).mp hmessage
    refine hkey ⟨i, keyAt s.account (first + i), s.envelope⟩ (List.mem_of_getElem? (i := i) ?_) rfl
    rw [getElem?_events_holding, hs]
    rfl
  increasing := (numbered_holding first sent).pairwise_index
  since := (numbered_holding first sent).eventsSince_eq_filter

/-- Over any run, failures included, the ledger records exactly what it accepted, and what it
recorded stays: events keep their places and messages their keys, whatever is submitted
later. -/
theorem run_records_accepted {first : Nat} (h : (first : Int) ≤ counterLimit)
    (submissions : List Submission) :
    ((empty first).run submissions).Records first ((empty first).accepted submissions) ∧
    ∀ later : List Submission,
      ((empty first).run submissions).events <+:
        ((empty first).run (submissions ++ later)).events ∧
      ∀ key message, ((empty first).run submissions).get? key = some message →
        ((empty first).run (submissions ++ later)).get? key = some message := by
  have hempty : empty first = holding first [] := rfl
  obtain ⟨hrun, hfits, hforms⟩ := @run_holding first [] h submissions
  rw [List.nil_append] at hrun hfits
  rw [hempty]
  refine ⟨hrun ▸ records_holding hfits hforms, fun later => ?_⟩
  obtain ⟨hrun', hfits', -⟩ := run_holding hfits later
  rw [run_append, hrun, hrun']
  constructor
  · simp only [holding, List.zipIdx_append, List.map_append]
    exact List.prefix_append ..
  · intro key message hmessage
    obtain ⟨i, s, hs, hkey⟩ := (get?_holding_eq_some_iff hfits).mp hmessage
    have hlt : i < ((empty first).accepted submissions).length :=
      (List.getElem?_eq_some_iff.mp hs).1
    refine (get?_holding_eq_some_iff hfits').mpr ⟨i, s, ?_, hkey⟩
    exact (List.getElem?_append_left hlt).trans hs

/-- A submission for one channel. -/
def smallSubmission (account : UInt8) (message : Bytes) : Submission :=
  ⟨[account], ⟨[], [], [], [⟨[1], [[2]]⟩]⟩, message⟩

/-- With one number left, an empty message is refused and takes no number, the next
submission gets the number, and the one after it is refused. -/
theorem last_number_records :
    let first := Nat.pow 2 128 - 2
    let sent := smallSubmission 8 [3]
    let l := (empty first).run [smallSubmission 7 [], sent, smallSubmission 9 [4]]
    (first : Int) ≤ counterLimit ∧ l.Records first [sent] ∧
      l.get? (keyAt [8] first) = some [3] ∧ l.counter = counterLimit ∧
      ∀ later, ((empty first).run ([smallSubmission 7 [], sent, smallSubmission 9 [4]]
        ++ later)).get? (keyAt [8] first) = some [3] := by
  intro first sent l
  have hfirst : (first : Int) ≤ counterLimit := by decide
  have haccepted : (empty first).accepted
      [smallSubmission 7 [], sent, smallSubmission 9 [4]] = [sent] := by
    decide +kernel
  have hfound : l.get? (keyAt [8] first) = some [3] := by decide +kernel
  obtain ⟨hrecords, hlater⟩ := run_records_accepted hfirst
    [smallSubmission 7 [], sent, smallSubmission 9 [4]]
  rw [haccepted] at hrecords
  refine ⟨hfirst, hrecords, hfound, ?_, fun later => (hlater later).2 _ _ hfound⟩
  rw [hrecords.counter, hrecords.length]
  rfl

end Ledger
end SealedPost
