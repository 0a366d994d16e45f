import SealedPost.Proofs.Feed.Delivery
import SealedPost.Proofs.Service.Requests

/-!
# The service as traffic

A service handles one request or connection after the other and publishes an event before it
answers. Whatever happens to it, its ledger and its feed go through steps of the traffic, so
what holds of all traffic holds of the service.
-/

namespace SealedPost

open Feed Feed.Traffic

theorem Service.nonneg_of_readSince {query : Text} {since : Int}
    (h : readSince query = .ok since) : 0 ≤ since := by
  rw [readSince] at h
  split at h
  · cases h
    exact Int.le_refl 0
  · rw [Wire.Checked.under, Attempt.mapError_eq_ok_iff, Wire.Checked.under,
      Attempt.mapError_eq_ok_iff] at h
    split at h
    · split at h
      · cases h
      · next hnonneg =>
          cases h
          exact Int.not_lt.mp hnonneg
    · cases h

namespace Service

/-- What can happen to a service. -/
inductive Occurrence where
  | request (r : Request)
  | connect (name path query : Text) (failAfter : Option Nat)
  | hangUp (name : Text)
  | sever (name : Text)
  | passTime (clock : Clock)

/-- The service after an occurrence. -/
def after (sv : Service) : Occurrence → Service
  | .request r => (sv.request r).2.1
  | .connect name path query failAfter => (sv.connect name path query failAfter).1
  | .hangUp name => sv.hangUp name
  | .sever name => sv.sever name
  | .passTime clock => { sv with clock := clock }

/-- A service and a traffic with the same ledger and feed. A socket that has no number yet has
not registered. -/
structure Matches (sv : Service) (s : Traffic Nat) : Prop where
  ledger : s.ledger = sv.ledger
  feed : s.feed = sv.feed
  fresh : ∀ id, sv.sockets.length ≤ id → (s.client id).since = none

variable {sv sv' : Service} {s : Traffic Nat}

/-- Only the ledger, the feed and the number of sockets matter. -/
theorem Matches.of_eq (h : sv.Matches s) (hledger : sv'.ledger = sv.ledger)
    (hfeed : sv'.feed = sv.feed) (hsockets : sv.sockets.length ≤ sv'.sockets.length) :
    sv'.Matches s where
  ledger := h.ledger.trans hledger.symm
  feed := h.feed.trans hfeed.symm
  fresh := fun id hid => h.fresh id (Nat.le_trans hsockets hid)

/-- Sending over a socket changes neither the ledger nor the feed. -/
theorem transmit_eq_some {id : Nat} {signal : Signal} {entry : Text × Signal}
    (h : sv.transmit id signal = some (sv', entry)) :
    sv'.ledger = sv.ledger ∧ sv'.feed = sv.feed ∧ sv'.sockets.length = sv.sockets.length := by
  rw [transmit] at h
  split at h
  · cases h
  · split at h
    · cases h
      exact ⟨rfl, rfl, List.length_set⟩
    · cases h

/-- What was or could not be delivered to a socket leaves open whether it has registered. -/
theorem Matches.record (h : sv.Matches s) (id : Nat) {c : Client}
    (hsince : c.since = (s.client id).since) (phase : Int → Option (Phase Nat)) :
    sv.Matches { s with phase := phase, client := Function.update s.client id c } where
  ledger := h.ledger
  feed := h.feed
  fresh := by
    intro other hother
    have hnew := h.fresh other hother
    by_cases heq : other = id
    · subst heq
      simpa only [Function.update_self, hsince] using hnew
    · simpa only [Function.update_of_ne heq] using hnew

theorem Matches.disconnect (h : sv.Matches s) (id : Nat) (phase : Int → Option (Phase Nat)) :
    { sv with feed := sv.feed.disconnect id }.Matches
      { s with feed := s.feed.disconnect id, phase := phase } where
  ledger := h.ledger
  feed := congrArg (Feed.disconnect · id) h.feed
  fresh := h.fresh

/-- Serving an audience one socket after the other is a run of deliveries, failures and drops
at whose end the event is published. -/
theorem Matches.deliver {i : Int} (text : Text) {rest : List Nat} (h : sv.Matches s)
    (hphase : s.phase i = some (.serving rest)) :
    ∃ s', Steps s s' ∧ (sv.deliver text rest).1.Matches s' ∧
      s'.phase = Function.update s.phase i (some (.serving [])) := by
  induction rest generalizing sv s with
  | nil =>
      refine ⟨s, .refl, h, ?_⟩
      rw [← hphase, Function.update_eq_self]
  | cons id rest ih =>
      rw [Service.deliver]
      split
      · next sv' entry htransmit =>
          obtain ⟨hledger, hfeed, hsockets⟩ := transmit_eq_some htransmit
          have hserved := h.of_eq hledger hfeed (Nat.le_of_eq hsockets.symm)
          have hrecord := hserved.record id
            (c := { s.client id with live := (s.client id).live ++ [i] }) rfl
            (Function.update s.phase i (some (.serving rest)))
          obtain ⟨s', steps, hdone, hphase'⟩ := ih hrecord (Function.update_self ..)
          refine ⟨s', .head (.deliver hphase) steps, hdone, ?_⟩
          rw [hphase', Function.update_idem]
      · have hrecord := (h.disconnect id s.phase).record id
          (c := { s.client id with failed := (s.client id).failed ++ [i] }) rfl
          (Function.update s.phase i (some (.serving rest)))
        obtain ⟨s', steps, hdone, hphase'⟩ := ih hrecord (Function.update_self ..)
        refine ⟨s', (steps_fail_drop hphase).trans steps, hdone, ?_⟩
        rw [hphase', Function.update_idem]

/-- A service and a traffic that match, with nothing left to be published. -/
structure Follows (sv : Service) (s : Traffic Nat) : Prop extends sv.Matches s where
  published : s.Published

theorem Follows.of_eq (h : sv.Follows s) (hledger : sv'.ledger = sv.ledger)
    (hfeed : sv'.feed = sv.feed) (hsockets : sv.sockets.length ≤ sv'.sockets.length) :
    sv'.Follows s :=
  ⟨h.toMatches.of_eq hledger hfeed hsockets, h.published⟩

/-- An accepted message is posted and published. -/
theorem Follows.publish (h : sv.Follows s) {account message : Bytes} {e : Envelope}
    {a : Announcement} {ledger : Ledger}
    (accepted : sv.ledger.send account e message = .ok (a, ledger)) :
    ∃ s', Steps s s' ∧ (publish { sv with ledger := ledger } a).1.Follows s' := by
  rw [← h.ledger] at accepted
  have hpost := Step.post accepted
  have hfix := Step.fix (i := a.index) (s := { s with
    ledger := ledger
    phase := Function.update s.phase a.index (some .waiting) }) (Function.update_self ..)
  simp only [Function.update_idem] at hfix
  have hmatches : { sv with ledger := ledger }.Matches { s with
      ledger := ledger
      phase := Function.update s.phase a.index (some (.serving (s.feed.audience a.index))) } :=
    ⟨rfl, h.feed, h.fresh⟩
  obtain ⟨s', steps, hdone, hphase⟩ :=
    hmatches.deliver (liveMessage a.toPublic) (Function.update_self ..)
  rw [h.feed] at hdone
  refine ⟨s', .head hpost (.head hfix steps), hdone, ?_⟩
  intro i p hp
  rw [hphase, Function.update_idem] at hp
  by_cases hi : i = a.index
  · subst hi
    rw [Function.update_self] at hp
    exact (Option.some.inj hp).symm
  · rw [Function.update_of_ne hi] at hp
    exact h.published i p hp

/-- A request publishes the message that it posts, or it leaves the ledger and the feed alone. -/
theorem Follows.request (h : sv.Follows s) (r : Request) :
    ∃ s', Steps s s' ∧ (sv.request r).2.1.Follows s' := by
  have hcached (cache : Token.Cache) : { sv with cache := cache }.Follows s :=
    h.of_eq rfl rfl (Nat.le_refl _)
  rcases request_cases sv r with ⟨response, cache, -, -, heq⟩ |
    ⟨-, -, t, a, cache, ledger, haccepts, heq⟩
  · rw [heq]
    exact ⟨s, .refl, hcached cache⟩
  · rw [heq]
    exact (hcached cache).publish haccepts.sent

/-- A new socket registers if its connection is accepted and its backlog arrives. -/
theorem Follows.serveFeed (h : sv.Follows s) {id : Nat} {since : Int} (hsince : 0 ≤ since)
    (hid : id < sv.sockets.length) (hfresh : (s.client id).since = none) :
    ∃ s', Steps s s' ∧ (sv.serveFeed id since).1.Follows s' := by
  rw [Service.serveFeed]
  split
  · exact ⟨s, .refl, h⟩
  · next sv₁ accepted haccepted =>
      obtain ⟨hledger, hfeed, hsockets⟩ := transmit_eq_some haccepted
      have haccepted := h.of_eq hledger hfeed (Nat.le_of_eq hsockets.symm)
      dsimp only
      split
      · exact ⟨s, .refl, haccepted⟩
      · next sv₂ sent hsent =>
          obtain ⟨hledger₂, hfeed₂, hsockets₂⟩ := transmit_eq_some hsent
          refine ⟨_, .single (.subscribe hfresh hsince rfl), ⟨?_, ?_, ?_⟩, h.published⟩
          · exact haccepted.ledger.trans hledger₂.symm
          · rw [mark, hfeed₂, haccepted.ledger, haccepted.feed]
          · intro other hother
            rw [mark, List.length_modify, hsockets₂, hsockets] at hother
            have hne : other ≠ id := by omega
            simpa only [Function.update_of_ne hne] using h.fresh other hother

theorem Follows.connect (h : sv.Follows s) (name path query : Text) (failAfter : Option Nat) :
    ∃ s', Steps s s' ∧ (sv.connect name path query failAfter).1.Follows s' := by
  let opened : Service := { sv with
    sockets := sv.sockets ++ [⟨name, 0, failAfter, false, false⟩] }
  have hopened : opened.Follows s := h.of_eq rfl rfl (by simp [opened])
  have hrefused : ∀ code, ∃ s', Steps s s' ∧
      (opened.refuse sv.sockets.length code).1.Follows s' := by
    intro code
    rw [refuse]
    split
    · next sv' entry htransmit =>
        obtain ⟨hledger, hfeed, hsockets⟩ := transmit_eq_some htransmit
        exact ⟨s, .refl, hopened.of_eq hledger hfeed (Nat.le_of_eq hsockets.symm)⟩
    · exact ⟨s, .refl, hopened⟩
  rw [Service.connect]
  split
  · split
    · exact hrefused 1008
    · next since hsince =>
        exact hopened.serveFeed (nonneg_of_readSince hsince) (by simp [opened])
          (h.fresh _ (Nat.le_refl _))
  · exact hrefused 1000

theorem Follows.hangUp (h : sv.Follows s) (name : Text) :
    ∃ s', Steps s s' ∧ (sv.hangUp name).Follows s' := by
  rw [Service.hangUp]
  split
  · exact ⟨s, .refl, h⟩
  · next id _ =>
      refine ⟨_, .single (.leave (k := id)), ⟨h.ledger, ?_, ?_⟩, h.published⟩
      · rw [h.feed]
      · intro other hother
        rw [mark, List.length_modify] at hother
        exact h.fresh other hother

theorem Follows.sever (h : sv.Follows s) (name : Text) : (sv.sever name).Follows s := by
  rw [Service.sever]
  split
  · exact h
  · exact h.of_eq rfl rfl (Nat.le_of_eq (by rw [mark, List.length_modify]))

/-- Whatever happens to a service, it goes through steps of the traffic. -/
theorem Follows.after (h : sv.Follows s) (o : Occurrence) :
    ∃ s', Steps s s' ∧ (sv.after o).Follows s' := by
  cases o with
  | request r => exact h.request r
  | connect name path query failAfter => exact h.connect name path query failAfter
  | hangUp name => exact h.hangUp name
  | sever name => exact ⟨s, .refl, h.sever name⟩
  | passTime clock => exact ⟨s, .refl, h.of_eq rfl rfl (Nat.le_refl _)⟩

theorem Follows.run (h : sv.Follows s) (occurrences : List Occurrence) :
    ∃ s', Steps s s' ∧ (occurrences.foldl Service.after sv).Follows s' := by
  induction occurrences generalizing sv s with
  | nil => exact ⟨s, .refl, h⟩
  | cons o later ih =>
      obtain ⟨s₁, first, h₁⟩ := h.after o
      obtain ⟨s₂, rest, h₂⟩ := ih h₁
      exact ⟨s₂, first.trans rest, h₂⟩

theorem follows_start (settings : Settings) (counter : Int) :
    (start settings counter).Follows (Traffic.start counter) where
  ledger := rfl
  feed := rfl
  fresh := fun _ _ => rfl
  published := nofun

/-- Every run of the service is a run of the traffic. -/
theorem exists_steps_of_run (settings : Settings) (counter : Int)
    (occurrences : List Occurrence) :
    ∃ s, Steps (Traffic.start counter) s ∧
      (occurrences.foldl after (start settings counter)).Follows s :=
  (follows_start settings counter).run occurrences

end Service
end SealedPost
