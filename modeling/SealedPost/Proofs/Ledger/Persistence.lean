import SealedPost.Proofs.Ledger.History

/-!
# What stays in a ledger

Numbers go up and none is given twice. So from any ledger on, whatever it holds and whatever is
sent to it, an event keeps its place, and what is stored under a key that ends in a number given
before stays there.
-/

namespace SealedPost.Ledger

theorem lookup_setMessage_of_ne {key other : Bytes} (h : other ≠ key) (message : Bytes)
    (messages : List (Bytes × Bytes)) :
    (setMessage key message messages).lookup other = messages.lookup other := by
  induction messages with
  | nil =>
      have hne : (other == key) = false := beq_false_of_ne h
      rw [setMessage, List.lookup_cons, hne]
  | cons m rest ih =>
      obtain ⟨k, value⟩ := m
      rw [setMessage]
      split
      · next hk =>
          have hne : (other == key) = false := beq_false_of_ne h
          have hne' : (other == k) = false := beq_false_of_ne (hk ▸ h)
          rw [List.lookup_cons, List.lookup_cons, hne, hne']
      · rw [List.lookup_cons, List.lookup_cons, ih]

/-- What an accepted submission does to a ledger: its announcement comes last among the events,
with the next index and the next number in its key, and its message is stored under that key. -/
structure Appends (l : Ledger) (s : Submission) (a : Announcement) (l' : Ledger) : Prop where
  index : a.index = l.events.length
  key : a.key = s.account ++ Bytes.ofNat 16 l.counter.toNat
  number : (numberOf a.key : Int) = l.counter
  envelope : a.envelope = s.envelope
  events : l'.events = l.events ++ [a]
  counter : l'.counter = l.counter + 1
  found : l'.get? a.key = some s.message
  others : ∀ key, key ≠ a.key → l'.get? key = l.get? key

/-- A ledger goes on from another: its events come after those of the other, its number is not
lower, and what the other has under a key with a number that was given is unchanged. -/
structure Extends (l l' : Ledger) : Prop where
  events : l.events <+: l'.events
  counter : l.counter ≤ l'.counter
  get? : ∀ key, (numberOf key : Int) < l.counter → l'.get? key = l.get? key

theorem Extends.refl (l : Ledger) : l.Extends l where
  events := List.prefix_rfl
  counter := Int.le_refl _
  get? := fun _ _ => rfl

theorem Extends.trans {l₁ l₂ l₃ : Ledger} (h : l₁.Extends l₂) (h' : l₂.Extends l₃) :
    l₁.Extends l₃ where
  events := h.events.trans h'.events
  counter := Int.le_trans h.counter h'.counter
  get? := by
    intro key hkey
    rw [h'.get? key (Int.lt_of_lt_of_le hkey h.counter), h.get? key hkey]

section Sending

variable {l l' later : Ledger} {s : Submission} {a : Announcement}

theorem appends_of_send (h : l.send s.account s.envelope s.message = .ok (a, l')) :
    l.Appends s a l' := by
  obtain ⟨-, ⟨hcounter, hleft⟩, hstore⟩ := send_eq_ok_iff.mp h
  cases hstore
  exact {
    index := rfl
    key := rfl
    number := by
      rw [numberOf_keyAt _ (by omega), Int.toNat_of_nonneg hcounter]
    envelope := rfl
    events := rfl
    counter := rfl
    found := lookup_setMessage_self ..
    others := fun key hkey => lookup_setMessage_of_ne hkey .. }

theorem extends_of_send (h : l.send s.account s.envelope s.message = .ok (a, l')) :
    l.Extends l' := by
  have happends := appends_of_send h
  have hnumber := happends.number
  constructor
  · rw [happends.events]
    exact List.prefix_append ..
  · rw [happends.counter]
    omega
  · intro key hkey
    apply happends.others
    rintro rfl
    omega

theorem extends_submit (l : Ledger) (s : Submission) : l.Extends (l.submit s) := by
  unfold submit
  split
  · next hsend => exact extends_of_send hsend
  · exact .refl l

/-- Over any run a ledger goes on from what it was. -/
theorem extends_run (l : Ledger) (submissions : List Submission) :
    l.Extends (l.run submissions) := by
  induction submissions generalizing l with
  | nil => exact .refl l
  | cons s rest ih => exact (extends_submit l s).trans (ih _)

/-- What an accepted submission left is there in every ledger that goes on from it. -/
theorem Extends.lasting (hlater : l'.Extends later)
    (h : l.send s.account s.envelope s.message = .ok (a, l')) :
    later.events[l.events.length]? = some a ∧ later.get? a.key = some s.message := by
  have happends := appends_of_send h
  have hnumber := happends.number
  constructor
  · obtain ⟨rest, hrest⟩ := hlater.events
    rw [← hrest, happends.events, List.append_assoc, List.getElem?_append_right (Nat.le_refl _),
      Nat.sub_self]
    rfl
  · rw [hlater.get? a.key (by rw [happends.counter]; omega), happends.found]

end Sending
end SealedPost.Ledger
