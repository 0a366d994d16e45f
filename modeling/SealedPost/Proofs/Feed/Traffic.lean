import SealedPost.Proofs.Feed.Cursors
import SealedPost.Proofs.Ledger.Sending
import Mathlib.Logic.Function.Basic
import Mathlib.Logic.Relation

/-!
# The traffic of a feed

Messages are posted, their events are published, and sockets come and go, all of it
interleaved. Publishing an event has two phases. First its audience is fixed; then the
sockets of the audience are served one at a time. Between any two of these steps other
events may be published, sockets registered or dropped, and each delivery may fail.

## Implementation notes

A posted event waits until its audience is fixed, so each event is published once and
events may overtake one another. A socket whose delivery failed is dropped in a step of its
own, before the rest of the audience is served. The backlog of a socket counts as received
when the registration answers with it.
-/

namespace SealedPost.Feed

/-- How far the publishing of an event has come: its audience is not fixed yet, or these
sockets are still to be served, or a socket is to be dropped before the rest is served. -/
inductive Phase (Socket : Type) where
  | waiting
  | serving (rest : List Socket)
  | dropping (socket : Socket) (rest : List Socket)
deriving DecidableEq

/-- The sockets that a phase still has to do with. -/
def Phase.sockets {Socket : Type} : Phase Socket → List Socket
  | waiting => []
  | serving rest => rest
  | dropping socket rest => socket :: rest

/-- What a socket has seen: the index from which on it wanted events and those that came with
its registration, if it registered, those that were delivered to it later, and those whose
delivery failed. -/
structure Client where
  since : Option Int
  backlog : List Int
  live : List Int
  failed : List Int
deriving DecidableEq

/-- The events that a socket received, with its backlog or later. -/
def Client.received (c : Client) : List Int := c.backlog ++ c.live

/-- A ledger and a feed with the events that are being published and what the sockets have
seen. -/
structure Traffic (Socket : Type) where
  ledger : Ledger
  feed : Feed Socket
  phase : Int → Option (Phase Socket)
  client : Socket → Client

namespace Traffic

variable {Socket : Type}

/-- Before any message and any socket. -/
def start (counter : Int) : Traffic Socket :=
  ⟨Ledger.empty counter, Feed.empty, fun _ => none, fun _ => ⟨none, [], [], []⟩⟩

/-- Nothing is left to be done for any event that was posted. -/
def Published (s : Traffic Socket) : Prop := ∀ i p, s.phase i = some p → p = .serving []

/-- What the parts of the traffic have to do with each other: the events that are or were
published are those of the ledger, and no socket is registered or waits for an event
twice. -/
structure Coherent (s : Traffic Socket) : Prop where
  numbered : s.ledger.Numbered
  distinct : s.feed.Distinct
  phase_eq_none_iff : ∀ i, s.phase i = none ↔ ¬ (0 ≤ i ∧ i < s.ledger.events.length)
  nodup : ∀ i p, s.phase i = some p → p.sockets.Nodup

theorem coherent_start (counter : Int) : (start counter : Traffic Socket).Coherent where
  numbered := Ledger.numbered_empty counter
  distinct := distinct_empty
  phase_eq_none_iff := by
    intro i
    simp only [start, Ledger.empty, List.length_nil, true_iff]
    omega
  nodup := nofun

/-- An event that is published goes on to a phase without doubles. -/
theorem Coherent.update_phase {s : Traffic Socket} (h : s.Coherent) {i : Int}
    {p q : Phase Socket} (hp : s.phase i = some p) (hq : q.sockets.Nodup) :
    (∀ j, Function.update s.phase i (some q) j = none ↔
      ¬ (0 ≤ j ∧ j < s.ledger.events.length)) ∧
    ∀ j r, Function.update s.phase i (some q) j = some r → r.sockets.Nodup := by
  constructor
  · intro j
    by_cases hj : j = i
    · subst hj
      have hposted := (h.phase_eq_none_iff j).not.mp (by simp [hp])
      simpa using hposted
    · rw [Function.update_of_ne hj]
      exact h.phase_eq_none_iff j
  · intro j r hr
    by_cases hj : j = i
    · subst hj
      rw [Function.update_self] at hr
      exact Option.some.inj hr ▸ hq
    · rw [Function.update_of_ne hj] at hr
      exact h.nodup j r hr

/-- All publishing is over if it is for each event of the ledger. -/
theorem Coherent.published {s : Traffic Socket} (h : s.Coherent)
    (hdone : ∀ i : Fin s.ledger.events.length, s.phase i.val = some (.serving [])) :
    s.Published := by
  intro i p hp
  have hposted := (h.phase_eq_none_iff i).not.mp (by simp [hp])
  have hi : ((i.toNat : Nat) : Int) = i := by omega
  have hphase := hdone ⟨i.toNat, by omega⟩
  rw [hi, hp] at hphase
  exact Option.some.inj hphase

variable [DecidableEq Socket]

/-- The steps between which everything may be interleaved. -/
inductive Step (s : Traffic Socket) : Traffic Socket → Prop
  /-- A message is accepted, and its event is to be published. -/
  | post {account message : Bytes} {e : Envelope} {a : Announcement} {ledger : Ledger}
      (accepted : s.ledger.send account e message = .ok (a, ledger)) :
      Step s
        { s with
          ledger := ledger
          phase := Function.update s.phase a.index (some .waiting) }
  /-- The audience of an event is fixed. -/
  | fix {i : Int} (waits : s.phase i = some .waiting) :
      Step s
        { s with phase := Function.update s.phase i (some (.serving (s.feed.audience i))) }
  /-- The next socket of an audience is served. -/
  | deliver {i : Int} {k : Socket} {rest : List Socket}
      (next : s.phase i = some (.serving (k :: rest))) :
      Step s
        { s with
          phase := Function.update s.phase i (some (.serving rest))
          client := Function.update s.client k
            { s.client k with live := (s.client k).live ++ [i] } }
  /-- The delivery to the next socket of an audience fails. -/
  | fail {i : Int} {k : Socket} {rest : List Socket}
      (next : s.phase i = some (.serving (k :: rest))) :
      Step s
        { s with
          phase := Function.update s.phase i (some (.dropping k rest))
          client := Function.update s.client k
            { s.client k with failed := (s.client k).failed ++ [i] } }
  /-- A socket is dropped after a delivery to it failed. -/
  | drop {i : Int} {k : Socket} {rest : List Socket}
      (broken : s.phase i = some (.dropping k rest)) :
      Step s
        { s with
          feed := s.feed.disconnect k
          phase := Function.update s.phase i (some (.serving rest)) }
  /-- A socket registers, once at most, and gets the events of the ledger from an index on. -/
  | subscribe {k : Socket} {since : Int} {backlog : List Int}
      (fresh : (s.client k).since = none) (nonneg : 0 ≤ since)
      (events : backlog = (s.ledger.eventsSince since).map Announcement.index) :
      Step s
        { s with
          feed := s.feed.subscribe k since backlog
          client := Function.update s.client k
            { s.client k with since := some since, backlog := backlog } }
  /-- A socket goes away. -/
  | leave {k : Socket} : Step s { s with feed := s.feed.disconnect k }

/-- Any number of steps. -/
abbrev Steps : Traffic Socket → Traffic Socket → Prop := Relation.ReflTransGen Step

variable {s s' : Traffic Socket}

/-- A failed delivery together with the drop that follows it. -/
theorem steps_fail_drop {i : Int} {k : Socket} {rest : List Socket}
    (next : s.phase i = some (.serving (k :: rest))) :
    Steps s
      { s with
        feed := s.feed.disconnect k
        phase := Function.update s.phase i (some (.serving rest))
        client := Function.update s.client k
          { s.client k with failed := (s.client k).failed ++ [i] } } := by
  let unreached : Traffic Socket := { s with
    phase := Function.update s.phase i (some (.dropping k rest))
    client := Function.update s.client k
      { s.client k with failed := (s.client k).failed ++ [i] } }
  have hbroken : unreached.phase i = some (.dropping k rest) := Function.update_self ..
  refine .head (.fail next) (.single ?_)
  have hdrop := Step.drop hbroken
  simpa only [unreached, Function.update_idem] using hdrop

theorem Coherent.step (h : s.Coherent) (step : Step s s') : s'.Coherent := by
  cases step with
  | @post account message e a ledger accepted =>
      obtain ⟨hindex, hevents⟩ := Ledger.event_of_send accepted
      refine ⟨h.numbered.send accepted, h.distinct, ?_, ?_⟩
      · intro i
        rw [hevents, List.length_append, List.length_singleton]
        by_cases hi : i = a.index
        · subst hi
          simp only [Function.update_self, reduceCtorEq, false_iff]
          omega
        · simp only [Function.update_of_ne hi, h.phase_eq_none_iff]
          omega
      · intro i p hp
        by_cases hi : i = a.index
        · subst hi
          simp only [Function.update_self, Option.some.injEq] at hp
          exact hp ▸ List.nodup_nil
        · simp only [Function.update_of_ne hi] at hp
          exact h.nodup i p hp
  | @fix i waits =>
      obtain ⟨hphase, hnodup⟩ :=
        h.update_phase waits (q := .serving (s.feed.audience i)) (h.distinct.nodup_audience i)
      exact ⟨h.numbered, h.distinct, hphase, hnodup⟩
  | @deliver i k rest next =>
      obtain ⟨hphase, hnodup⟩ :=
        h.update_phase next (q := .serving rest) (List.nodup_cons.mp (h.nodup i _ next)).2
      exact ⟨h.numbered, h.distinct, hphase, hnodup⟩
  | @fail i k rest next =>
      obtain ⟨hphase, hnodup⟩ :=
        h.update_phase next (q := .dropping k rest) (h.nodup i (.serving (k :: rest)) next)
      exact ⟨h.numbered, h.distinct, hphase, hnodup⟩
  | @drop i k rest broken =>
      obtain ⟨hphase, hnodup⟩ :=
        h.update_phase broken (q := .serving rest) (List.nodup_cons.mp (h.nodup i _ broken)).2
      exact ⟨h.numbered, h.distinct.disconnect k, hphase, hnodup⟩
  | @subscribe k since backlog fresh nonneg events =>
      exact ⟨h.numbered, h.distinct.subscribe k since backlog, h.phase_eq_none_iff, h.nodup⟩
  | @leave k => exact ⟨h.numbered, h.distinct.disconnect k, h.phase_eq_none_iff, h.nodup⟩

theorem Coherent.steps (h : s.Coherent) (steps : Steps s s') : s'.Coherent := by
  induction steps with
  | refl => exact h
  | tail _ step ih => exact ih.step step

end Traffic
end SealedPost.Feed
