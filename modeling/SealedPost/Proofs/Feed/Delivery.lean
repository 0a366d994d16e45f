import SealedPost.Proofs.Feed.View

/-!
# Delivery of events

However posts, publishes, registrations, departures and failures are interleaved, a socket
gets no event twice. Once all publishing is over, a socket that stayed and could always be
reached has got every event from its start on. A socket that could not be reached is dropped
and gets nothing that is published later.
-/

namespace SealedPost.Feed.Traffic

variable {Socket : Type} [DecidableEq Socket] {s s' : Traffic Socket} {k : Socket}

theorem sound_view_start (counter : Int) (k : Socket) :
    ((start counter : Traffic Socket).view k).Sound := by
  constructor
  · intro i
    have hempty : ((start counter : Traffic Socket).view k).count = 0 := rfl
    rw [hempty]
    exact ⟨fun _ => by omega, fun _ => rfl⟩
  · exact .inl ⟨rfl, rfl, fun i => ⟨nofun, nofun⟩⟩

/-- What every move keeps in the view of a socket is kept over a run. -/
theorem view_steps {P : View → Prop} (hP : ∀ {v v'}, P v → View.Step v v' → P v')
    (h : s.Coherent) (hview : P (s.view k)) (steps : Steps s s') : P (s'.view k) := by
  induction steps with
  | refl => exact hview
  | tail reached step ih =>
      rcases view_step (h.steps reached) step k with heq | hmove
      · exact heq ▸ ih
      · exact hP ih hmove

/-- Once all publishing is over, every event is settled for every socket. -/
theorem Published.standing (h : s.Published) (k : Socket) (i : Int) :
    (s.view k).standing i = .unsent ∨ (s.view k).standing i = .settled := by
  change Feed.standing k (s.phase i) = .unsent ∨ Feed.standing k (s.phase i) = .settled
  cases hphase : s.phase i with
  | none => exact .inl rfl
  | some p =>
      obtain rfl := h i p hphase
      exact .inr (by simp [Feed.standing])

/-- A socket that has seen anything, or is registered, got a cursor when it registered. -/
theorem exists_served (h : (s.view k).Sound)
    (hseen : s.client k ≠ ⟨none, [], [], []⟩ ∨ s.feed.cursor? k ≠ none) :
    ∃ since cursor, (s.view k).Served since cursor := by
  rcases h.2 with hfresh | hserved
  · rcases hseen with hclient | hcursor
    · exact absurd hfresh.client hclient
    · exact absurd hfresh.cursor hcursor
  · exact hserved

/-- In every state that is reached, a socket has received each event at most once, with its
backlog or later, and none from before its start. When all publishing is over, a socket that
is still registered and was always reached has received exactly the events from its start on.
When the publishing of an event whose delivery to a socket failed is over, the socket is not
registered any more, and of the events whose publishing had not begun it never receives any
that its backlog did not hold. -/
theorem every_event_delivered_once (counter : Int) {s : Traffic Socket}
    (reached : Steps (start counter) s) (k : Socket) :
    ((s.client k).received.Nodup ∧
      ∀ i ∈ (s.client k).received, ∃ since, (s.client k).since = some since ∧ since ≤ i) ∧
    (s.Published → s.feed.cursor? k ≠ none → (s.client k).failed = [] →
      ∃ since, (s.client k).since = some since ∧
        ∀ i, i ∈ (s.client k).received ↔ since ≤ i ∧ ∃ a ∈ s.ledger.events, a.index = i) ∧
    ∀ i ∈ (s.client k).failed, s.phase i = some (.serving []) →
      s.feed.cursor? k = none ∧
      ∀ s', Steps s s' → s'.feed.cursor? k = none ∧
        ∀ j, s.phase j = none ∨ s.phase j = some .waiting →
          j ∈ (s'.client k).received → j ∈ (s.client k).backlog := by
  have hcoherent := (coherent_start counter).steps reached
  have hsound : (s.view k).Sound :=
    view_steps View.Sound.step (coherent_start counter) (sound_view_start counter k) reached
  refine ⟨?_, ?_, ?_⟩
  · by_cases hnew : s.client k = ⟨none, [], [], []⟩
    · rw [hnew]
      exact ⟨List.nodup_nil, nofun⟩
    · obtain ⟨since, cursor, hserved⟩ := exists_served hsound (.inl hnew)
      obtain ⟨hnodup, hle⟩ := hserved.nodup_received
      exact ⟨hnodup, fun i hi => ⟨since, hserved.since_eq, hle i hi⟩⟩
  · intro hpublished hregistered hfailed
    obtain ⟨since, cursor, hserved⟩ := exists_served hsound (.inr hregistered)
    refine ⟨since, hserved.since_eq, fun i => ?_⟩
    rw [hcoherent.numbered.exists_index_iff]
    exact hserved.mem_received_iff hsound.1 hregistered hfailed (hpublished.standing k) i
  · intro i hi hdone
    have hseen : s.client k ≠ ⟨none, [], [], []⟩ := by
      intro hnew
      rw [hnew] at hi
      cases hi
    obtain ⟨since, cursor, hserved⟩ := exists_served hsound (.inl hseen)
    have hsettled : (s.view k).standing i = .settled := by
      simp [view, hdone, standing]
    have hdropped : (s.view k).standing i ≠ .broken := by simp [hsettled]
    have hshut : ∀ j, s.phase j = none ∨ s.phase j = some .waiting →
        (s.view k).Shut (s.client k).backlog j := by
      intro j hj
      refine hserved.shut hi hdropped ?_
      rcases hj with hj | hj <;> simp [view, hj, standing]
    have hnext : s.phase s.ledger.events.length = none :=
      (hcoherent.phase_eq_none_iff _).mpr (by omega)
    refine ⟨(hshut _ (.inl hnext)).cursor, fun s' steps => ⟨?_, fun j hj hmem => ?_⟩⟩
    · exact (view_steps View.Shut.step hcoherent (hshut _ (.inl hnext)) steps).cursor
    · have hshut' := view_steps View.Shut.step hcoherent (hshut j hj) steps
      rcases List.mem_append.mp hmem with hbacklog | hlive
      · exact hshut'.backlog_eq ▸ hbacklog
      · exact absurd hlive hshut'.live

/-- An envelope of the smallest kind that a ledger accepts. -/
def smallEnvelope : Envelope := ⟨[], [], [], [⟨[1], [[2]]⟩]⟩

/-- Two sockets register while the first event is still to be published, so they get it with
their backlogs. Of the next two events the later one overtakes the earlier one. One socket
gets both, the other can be reached for neither and is dropped. -/
theorem exists_overtaking_run :
    ∃ s : Traffic Bool, Steps (start 0) s ∧ s.ledger.events.length = 3 ∧
      (∀ i : Fin 3, s.phase i.val = some (.serving [])) ∧ s.feed.cursors = [(true, 1)] ∧
      s.client true = ⟨some 0, [0], [2, 1], []⟩ ∧ s.client false = ⟨some 0, [0], [], [2, 1]⟩ := by
  refine ⟨?state, ?run, ?rest⟩
  case run =>
    refine .head (@Step.post _ _ _ [7] [1] smallEnvelope _ _ rfl) ?_
    refine .head (@Step.subscribe _ _ _ true 0 _ rfl (by decide) rfl) ?_
    refine .head (@Step.subscribe _ _ _ false 0 _ rfl (by decide) rfl) ?_
    refine .head (@Step.fix _ _ _ 0 rfl) ?_
    refine .head (@Step.post _ _ _ [8] [2] smallEnvelope _ _ rfl) ?_
    refine .head (@Step.post _ _ _ [7] [3] smallEnvelope _ _ rfl) ?_
    refine .head (@Step.fix _ _ _ 2 rfl) ?_
    refine .head (@Step.deliver _ _ _ 2 true _ rfl) ?_
    refine .head (@Step.fix _ _ _ 1 rfl) ?_
    refine .head (@Step.deliver _ _ _ 1 true _ rfl) ?_
    refine .head (@Step.fail _ _ _ 2 false _ rfl) ?_
    refine .head (@Step.fail _ _ _ 1 false _ rfl) ?_
    refine .head (@Step.drop _ _ _ 1 false _ rfl) ?_
    refine .head (@Step.drop _ _ _ 2 false _ rfl) ?_
    exact .refl
  case rest => decide

theorem overtaking_events_delivered_once :
    ∃ s : Traffic Bool, Steps (start 0) s ∧ s.Published ∧
      (s.feed.cursor? true ≠ none ∧ (s.client true).failed = [] ∧
        (s.client true).received = [0, 2, 1] ∧
        ∀ i, i ∈ (s.client true).received ↔ 0 ≤ i ∧ ∃ a ∈ s.ledger.events, a.index = i) ∧
      (1 ∈ (s.client false).failed ∧ (s.client false).received = [0] ∧
        s.feed.cursor? false = none ∧
        ∀ s', Steps s s' → ∀ j, s.phase j = none → j ∉ (s'.client false).received) := by
  obtain ⟨s, reached, hlength, hdone, hcursors, hstayed, hgone⟩ := exists_overtaking_run
  have hpublished : s.Published := by
    apply ((coherent_start 0).steps reached).published
    rw [hlength]
    exact hdone
  obtain ⟨-, hcomplete, -⟩ := every_event_delivered_once 0 reached true
  obtain ⟨-, -, hdropped⟩ := every_event_delivered_once 0 reached false
  have hregistered : s.feed.cursor? true ≠ none := by
    rw [cursor?, hcursors]
    decide
  refine ⟨s, reached, hpublished, ⟨hregistered, ?_, ?_, ?_⟩, ?_, ?_, ?_, ?_⟩
  · rw [hstayed]
  · rw [hstayed]
    rfl
  · obtain ⟨since, hsince, hiff⟩ := hcomplete hpublished hregistered (by rw [hstayed])
    rw [hstayed] at hsince
    cases hsince
    exact hiff
  · rw [hgone]
    decide
  · rw [hgone]
    rfl
  · exact (hdropped 1 (by rw [hgone]; decide) (hdone 1)).1
  · intro s' steps j hj hmem
    have hbacklog := ((hdropped 1 (by rw [hgone]; decide) (hdone 1)).2 s' steps).2 j (.inl hj) hmem
    rw [hgone, List.mem_singleton] at hbacklog
    have hfirst : s.phase 0 = some (.serving []) := hdone 0
    cases (hbacklog ▸ hj).symm.trans hfirst

end SealedPost.Feed.Traffic
