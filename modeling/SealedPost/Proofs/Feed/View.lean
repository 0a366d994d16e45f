import SealedPost.Proofs.Feed.Traffic

/-!
# The traffic as one socket sees it

Whether a socket gets every event once can be seen from its own cursor and from what every
event still means to it. Seen like this, each step of the traffic is one of a few moves or
no move at all, and the moves keep the invariant from which delivery follows.
-/

namespace SealedPost.Feed

/-- What an event means to a socket: it was not posted yet, its audience is not fixed, the
socket is to be served, the socket is to be dropped, or nothing is left to be done. -/
inductive Standing where
  | unsent
  | waiting
  | owed
  | broken
  | settled
deriving DecidableEq

/-- What one socket sees: the number of events, its cursor if it is registered, what each
event means to it, and what it has seen. -/
@[ext] structure View where
  count : Nat
  cursor : Option Int
  standing : Int → Standing
  client : Client

namespace View

/-- The moves in the view of a socket. -/
inductive Step (v : View) : View → Prop
  | post :
      Step v
        { v with
          count := v.count + 1
          standing := Function.update v.standing v.count .waiting }
  | call {i c : Int} (waits : v.standing i = .waiting) (registered : v.cursor = some c)
      (reached : c ≤ i) : Step v { v with standing := Function.update v.standing i .owed }
  | pass {i : Int} (waits : v.standing i = .waiting)
      (missed : ∀ c, v.cursor = some c → i < c) :
      Step v { v with standing := Function.update v.standing i .settled }
  | deliver {i : Int} (owed : v.standing i = .owed) :
      Step v
        { v with
          standing := Function.update v.standing i .settled
          client := { v.client with live := v.client.live ++ [i] } }
  | fail {i : Int} (owed : v.standing i = .owed) :
      Step v
        { v with
          standing := Function.update v.standing i .broken
          client := { v.client with failed := v.client.failed ++ [i] } }
  | drop {i : Int} (broken : v.standing i = .broken) :
      Step v
        { v with
          cursor := none
          standing := Function.update v.standing i .settled }
  | subscribe {since : Int} {backlog : List Int} (fresh : v.client.since = none)
      (nonneg : 0 ≤ since) (nodup : backlog.Nodup)
      (events : ∀ i, i ∈ backlog ↔ since ≤ i ∧ i < v.count) :
      Step v
        { v with
          cursor := some (max since v.count)
          client := { v.client with since := some since, backlog := backlog } }
  | leave : Step v { v with cursor := none }

/-- The events that were posted are those below the number of events. -/
def Counted (v : View) : Prop := ∀ i, v.standing i = .unsent ↔ ¬ (0 ≤ i ∧ i < v.count)

/-- The view of a socket that has not registered. -/
structure Fresh (v : View) : Prop where
  client : v.client = ⟨none, [], [], []⟩
  cursor : v.cursor = none
  idle : ∀ i, v.standing i ≠ .owed ∧ v.standing i ≠ .broken

/-- What an event means to a socket that registered and got a cursor. What was delivered lies
above the cursor and is settled. What is settled above the cursor was delivered, as long as the
socket stays and nothing failed. What failed is to be followed by a drop or was. -/
structure Tracks (v : View) (cursor i : Int) : Prop where
  live : i ∈ v.client.live → cursor ≤ i ∧ v.standing i = .settled
  owed : v.standing i = .owed → cursor ≤ i
  complete : v.cursor ≠ none → v.client.failed = [] → cursor ≤ i →
    v.standing i = .settled → i ∈ v.client.live
  failed : i ∈ v.client.failed →
    v.standing i = .broken ∨ (v.standing i = .settled ∧ v.cursor = none)

/-- The view of a socket that registered for events from an index on and got a cursor. The
backlog holds the events below the cursor. -/
structure Served (v : View) (since cursor : Int) : Prop where
  since_eq : v.client.since = some since
  nonneg : 0 ≤ since
  le_cursor : since ≤ cursor
  cursor_cases : cursor = since ∨ cursor ≤ v.count
  registered : v.cursor = none ∨ v.cursor = some cursor
  nodup_backlog : v.client.backlog.Nodup
  mem_backlog : ∀ i, i ∈ v.client.backlog ↔ since ≤ i ∧ i < cursor
  nodup_live : v.client.live.Nodup
  tracks : ∀ i, v.Tracks cursor i

variable {v v' : View} {since cursor : Int}

theorem Counted.step (h : v.Counted) (step : Step v v') : v'.Counted := by
  unfold Counted at *
  cases step <;> grind [Function.update_apply]

/-- A socket that has not registered is not served, and once it registers its backlog ends
where its cursor begins. -/
theorem Fresh.step (h : v.Fresh) (hcounted : v.Counted) (step : Step v v') :
    v'.Fresh ∨ ∃ since cursor, v'.Served since cursor := by
  obtain ⟨hclient, hcursor, hidle⟩ := h
  cases step with
  | post => exact .inl ⟨hclient, hcursor, by grind [Function.update_apply]⟩
  | call _ registered _ => exact absurd registered (by simp [hcursor])
  | pass _ _ => exact .inl ⟨hclient, hcursor, by grind [Function.update_apply]⟩
  | @deliver i owed => exact absurd owed (hidle i).1
  | @fail i owed => exact absurd owed (hidle i).1
  | @drop i broken => exact absurd broken (hidle i).2
  | @subscribe since backlog _ nonneg nodup events =>
      refine .inr ⟨since, max since v.count, ?_⟩
      -- Every event below the number of events that is not in the backlog is below `since`.
      have hpast : ∀ i, max since v.count ≤ i → v.standing i = .unsent := by
        intro i hi
        exact (hcounted i).mpr (by omega)
      exact
        { since_eq := rfl
          nonneg := nonneg
          le_cursor := Int.le_max_left ..
          cursor_cases := by dsimp only; omega
          registered := .inr rfl
          nodup_backlog := nodup
          mem_backlog := by
            intro i
            rw [events i]
            omega
          nodup_live := by simp [hclient]
          tracks := by
            intro i
            constructor
            · simp [hclient]
            · exact fun howed => absurd howed (hidle i).1
            · intro _ _ hi hsettled
              cases (hpast i hi).symm.trans hsettled
            · simp [hclient] }
  | leave => exact .inl ⟨hclient, rfl, hidle⟩

/-- An event that is not settled was not delivered. -/
theorem Tracks.not_mem_live {i : Int} (h : v.Tracks cursor i) (hopen : v.standing i ≠ .settled) :
    i ∉ v.client.live :=
  fun hmem => hopen (h.live hmem).2

/-- An event that is neither settled nor to be followed by a drop did not fail. -/
theorem Tracks.not_mem_failed {i : Int} (h : v.Tracks cursor i)
    (hopen : v.standing i ≠ .settled) (hwhole : v.standing i ≠ .broken) :
    i ∉ v.client.failed := by
  intro hmem
  rcases h.failed hmem with hbroken | ⟨hsettled, -⟩
  · exact hwhole hbroken
  · exact hopen hsettled

/-- A change that concerns one event leaves all others as they are, also if the socket goes. -/
theorem Tracks.update {i : Int} (h : ∀ j, v.Tracks cursor j) (hself : v'.Tracks cursor i)
    (hstanding : ∀ j ≠ i, v'.standing j = v.standing j)
    (hlive : ∀ j ≠ i, j ∈ v'.client.live ↔ j ∈ v.client.live)
    (hfailed : ∀ j ≠ i, j ∈ v'.client.failed ↔ j ∈ v.client.failed)
    (hnil : v'.client.failed = [] → v.client.failed = [])
    (hcursor : v'.cursor = none ∨ v'.cursor = v.cursor) (j : Int) : v'.Tracks cursor j := by
  by_cases hj : j = i
  · exact hj ▸ hself
  · obtain ⟨live, owed, complete, failed⟩ := h j
    rw [← hstanding j hj] at live owed complete failed
    rw [← hlive j hj] at live complete
    rw [← hfailed j hj] at failed
    refine ⟨live, owed, fun hsome hnone => ?_, fun hmem => (failed hmem).imp_right ?_⟩
    · exact complete (hcursor.resolve_left hsome ▸ hsome) (hnil hnone)
    · rintro ⟨hsettled, hnone⟩
      exact ⟨hsettled, hcursor.elim id fun heq => heq.trans hnone⟩

/-- The invariant of a registered socket is kept by every move. -/
theorem Served.step (h : v.Served since cursor) (hcounted : v.Counted) (step : Step v v') :
    v'.Served since cursor := by
  cases step with
  | post =>
      have hnew : v.standing v.count = .unsent := (hcounted v.count).mpr (by omega)
      have hlive := (h.tracks v.count).not_mem_live (by simp [hnew])
      have hfailed := (h.tracks v.count).not_mem_failed (by simp [hnew]) (by simp [hnew])
      have hcases := h.cursor_cases
      refine { h with cursor_cases := by dsimp only; omega, tracks := ?_ }
      refine Tracks.update (i := v.count) h.tracks ?_ ?_ (by simp) (by simp) id (.inr rfl)
      · exact ⟨fun hmem => absurd hmem hlive, by simp, by simp, fun hmem => absurd hmem hfailed⟩
      · exact fun j hj => Function.update_of_ne hj ..
  | @call i c waits registered reached =>
      have habove : cursor ≤ i := by
        rcases h.registered with hnone | hsome
        · cases hnone.symm.trans registered
        · exact Option.some.inj (registered.symm.trans hsome) ▸ reached
      have hlive := (h.tracks i).not_mem_live (by simp [waits])
      have hfailed := (h.tracks i).not_mem_failed (by simp [waits]) (by simp [waits])
      refine { h with tracks := ?_ }
      refine Tracks.update (i := i) h.tracks ?_ ?_ (by simp) (by simp) id (.inr rfl)
      · exact ⟨fun hmem => absurd hmem hlive, fun _ => habove, by simp,
          fun hmem => absurd hmem hfailed⟩
      · exact fun j hj => Function.update_of_ne hj ..
  | @pass i waits missed =>
      have hlive := (h.tracks i).not_mem_live (by simp [waits])
      have hfailed := (h.tracks i).not_mem_failed (by simp [waits]) (by simp [waits])
      refine { h with tracks := ?_ }
      refine Tracks.update (i := i) h.tracks ?_ ?_ (by simp) (by simp) id (.inr rfl)
      · refine ⟨fun hmem => absurd hmem hlive, by simp, ?_, fun hmem => absurd hmem hfailed⟩
        -- While the socket is registered it misses only what its backlog holds.
        intro hsome _ habove _
        have hbelow := missed cursor (h.registered.resolve_left hsome)
        omega
      · exact fun j hj => Function.update_of_ne hj ..
  | @deliver i owed =>
      have habove : cursor ≤ i := (h.tracks i).owed owed
      have hlive := (h.tracks i).not_mem_live (by simp [owed])
      have hfailed := (h.tracks i).not_mem_failed (by simp [owed]) (by simp [owed])
      refine { h with nodup_live := ?_, tracks := ?_ }
      · exact List.nodup_append_comm.mp (List.nodup_cons.mpr ⟨hlive, h.nodup_live⟩)
      · refine Tracks.update (i := i) h.tracks ?_ ?_ ?_ (by simp) id (.inr rfl)
        · exact ⟨fun _ => ⟨habove, Function.update_self ..⟩, by simp, by simp,
            fun hmem => absurd hmem hfailed⟩
        · exact fun j hj => Function.update_of_ne hj ..
        · exact fun j hj => by simp [hj]
  | @fail i owed =>
      have hlive := (h.tracks i).not_mem_live (by simp [owed])
      refine { h with tracks := ?_ }
      refine Tracks.update (i := i) h.tracks ?_ ?_ (by simp) ?_ (by simp) (.inr rfl)
      · exact ⟨fun hmem => absurd hmem hlive, by simp, by simp,
          fun _ => .inl (Function.update_self ..)⟩
      · exact fun j hj => Function.update_of_ne hj ..
      · exact fun j hj => by simp [hj]
  | @drop i broken =>
      have hlive := (h.tracks i).not_mem_live (by simp [broken])
      refine { h with registered := .inl rfl, tracks := ?_ }
      refine Tracks.update (i := i) h.tracks ?_ ?_ (by simp) (by simp) id (.inl rfl)
      · exact ⟨fun hmem => absurd hmem hlive, by simp, by simp,
          fun _ => .inr ⟨Function.update_self .., rfl⟩⟩
      · exact fun j hj => Function.update_of_ne hj ..
  | subscribe fresh _ _ _ => exact absurd h.since_eq (by simp [fresh])
  | leave =>
      refine { h with registered := .inl rfl, tracks := fun i => ?_ }
      obtain ⟨live, owed, -, failed⟩ := h.tracks i
      exact ⟨live, owed, fun hsome => absurd rfl hsome,
        fun hmem => (failed hmem).imp_right fun hsettled => ⟨hsettled.1, rfl⟩⟩

/-- What holds in the view of every socket at any time. -/
def Sound (v : View) : Prop := v.Counted ∧ (v.Fresh ∨ ∃ since cursor, v.Served since cursor)

theorem Sound.step (h : v.Sound) (step : Step v v') : v'.Sound := by
  obtain ⟨hcounted, hfresh | ⟨since, cursor, hserved⟩⟩ := h
  · exact ⟨hcounted.step step, hfresh.step hcounted step⟩
  · exact ⟨hcounted.step step, .inr ⟨since, cursor, hserved.step hcounted step⟩⟩

/-- No event is received twice, and none from before the start. -/
theorem Served.nodup_received (h : v.Served since cursor) :
    v.client.received.Nodup ∧ ∀ i ∈ v.client.received, since ≤ i := by
  have hbacklog := h.mem_backlog
  constructor
  · refine List.nodup_append.mpr ⟨h.nodup_backlog, h.nodup_live, ?_⟩
    rintro i hi j hj rfl
    have habove := ((h.tracks i).live hj).1
    have hbelow := ((hbacklog i).mp hi).2
    omega
  · intro i hi
    rcases List.mem_append.mp hi with hi | hi
    · exact ((hbacklog i).mp hi).1
    · exact Int.le_trans h.le_cursor ((h.tracks i).live hi).1

/-- When nothing is left to be done, a socket that stayed and was always reached has received
the events from its start on. -/
theorem Served.mem_received_iff (h : v.Served since cursor) (hcounted : v.Counted)
    (hregistered : v.cursor ≠ none) (hfailed : v.client.failed = [])
    (hsettled : ∀ i, v.standing i = .unsent ∨ v.standing i = .settled) (i : Int) :
    i ∈ v.client.received ↔ since ≤ i ∧ 0 ≤ i ∧ i < v.count := by
  have hnonneg := h.nonneg
  have hcursor := h.le_cursor
  have hcases := h.cursor_cases
  have hcount := hcounted i
  rw [Client.received, List.mem_append, h.mem_backlog]
  constructor
  · rintro (hbacklog | hlive)
    · omega
    · obtain ⟨habove, hdone⟩ := (h.tracks i).live hlive
      have hsent : ¬ v.standing i = .unsent := by simp [hdone]
      rw [hcount, not_not] at hsent
      omega
  · rintro ⟨hsince, hsent⟩
    by_cases hbelow : i < cursor
    · exact .inl ⟨hsince, hbelow⟩
    · have hdone : v.standing i = .settled :=
        (hsettled i).resolve_left fun hunsent => hcount.mp hunsent hsent
      exact .inr ((h.tracks i).complete hregistered hfailed (by omega) hdone)

/-- A socket that was registered and is not any more, its backlog, and an event that it is
not owed. -/
structure Shut (v : View) (backlog : List Int) (i : Int) : Prop where
  since : v.client.since ≠ none
  cursor : v.cursor = none
  backlog_eq : v.client.backlog = backlog
  standing : v.standing i ≠ .owed
  live : i ∉ v.client.live

/-- A socket that is gone stays gone and does not get the event. -/
theorem Shut.step {backlog : List Int} {i : Int} (h : v.Shut backlog i) (step : Step v v') :
    v'.Shut backlog i := by
  obtain ⟨hsince, hcursor, hbacklog, hstanding, hlive⟩ := h
  cases step with
  | post => exact ⟨hsince, hcursor, hbacklog, by grind [Function.update_apply], hlive⟩
  | call _ registered _ => exact absurd registered (by simp [hcursor])
  | pass _ _ => exact ⟨hsince, hcursor, hbacklog, by grind [Function.update_apply], hlive⟩
  | @deliver j owed =>
      have hne : i ≠ j := fun heq => hstanding (heq ▸ owed)
      exact ⟨hsince, hcursor, hbacklog, by grind [Function.update_apply], by simp [hlive, hne]⟩
  | fail _ => exact ⟨hsince, hcursor, hbacklog, by grind [Function.update_apply], hlive⟩
  | drop _ => exact ⟨hsince, rfl, hbacklog, by grind [Function.update_apply], hlive⟩
  | subscribe fresh _ _ _ => exact absurd fresh hsince
  | leave => exact ⟨hsince, rfl, hbacklog, hstanding, hlive⟩

/-- Once a delivery to a socket failed and it was dropped, it is shut for every event that is
not on its way to it. -/
theorem Served.shut (h : v.Served since cursor) {i j : Int} (hi : i ∈ v.client.failed)
    (hdropped : v.standing i ≠ .broken)
    (hj : v.standing j = .unsent ∨ v.standing j = .waiting) :
    v.Shut v.client.backlog j where
  since := by simp [h.since_eq]
  cursor := (((h.tracks i).failed hi).resolve_left hdropped).2
  backlog_eq := rfl
  standing := by rcases hj with hj | hj <;> simp [hj]
  live := by
    apply (h.tracks j).not_mem_live
    rcases hj with hj | hj <;> simp [hj]

end View

variable {Socket : Type} [DecidableEq Socket]

/-- What an event in a given phase means to a socket. -/
def standing (k : Socket) : Option (Phase Socket) → Standing
  | none => .unsent
  | some .waiting => .waiting
  | some (.serving rest) => if k ∈ rest then .owed else .settled
  | some (.dropping j rest) =>
    if k ∈ rest then .owed else if k = j then .broken else .settled

/-- The cursor after a registration: past the backlog, or where the socket wants to start. -/
theorem cursorAfter_eventsSince {l : Ledger} (h : l.Numbered) {since : Int} (hsince : 0 ≤ since) :
    cursorAfter since ((l.eventsSince since).map Announcement.index) =
      max since l.events.length := by
  rw [cursorAfter, List.getLast?_map, Ledger.eventsSince, List.getLast?_drop]
  by_cases hpast : l.events.length ≤ since.toNat
  · rw [if_pos hpast]
    dsimp only [Option.map_none]
    omega
  · rw [if_neg hpast, List.getLast?_eq_getElem?]
    obtain ⟨a, hlast⟩ : ∃ a, l.events[l.events.length - 1]? = some a :=
      Option.isSome_iff_exists.mp (by simp; omega)
    rw [hlast]
    have hindex := h _ a hlast
    dsimp only [Option.map_some]
    omega

namespace Traffic

/-- The traffic as a socket sees it. -/
def view (s : Traffic Socket) (k : Socket) : View where
  count := s.ledger.events.length
  cursor := s.feed.cursor? k
  standing := standing k ∘ s.phase
  client := s.client k

variable {s s' : Traffic Socket}

/-- An event that goes on without a change for a socket stands as it did. -/
theorem standing_comp_update {k : Socket} {i : Int} {p q : Phase Socket}
    (hp : s.phase i = some p) (hpq : standing k (some q) = standing k (some p)) :
    standing k ∘ Function.update s.phase i (some q) = standing k ∘ s.phase := by
  rw [Function.comp_update, hpq, ← hp]
  exact Function.update_eq_self i (standing k ∘ s.phase)

/-- Each step is a move in the view of a socket, or leaves the view as it is. -/
theorem view_step (h : s.Coherent) (step : Step s s') (k : Socket) :
    s'.view k = s.view k ∨ View.Step (s.view k) (s'.view k) := by
  cases step with
  | @post account message e a ledger accepted =>
      obtain ⟨hindex, hevents⟩ := Ledger.event_of_send accepted
      refine .inr ?_
      have hpost := View.Step.post (v := s.view k)
      simpa only [view, hindex, hevents, Function.comp_update, standing, List.length_append,
        List.length_singleton] using hpost
  | @fix i waits =>
      have hstands : (s.view k).standing i = .waiting := by
        simp only [view, Function.comp_apply, waits, standing]
      refine .inr ?_
      by_cases hmem : k ∈ s.feed.audience i
      · obtain ⟨c, hcursor, hreached⟩ := h.distinct.mem_audience_iff.mp hmem
        have hcall := View.Step.call hstands hcursor hreached
        simpa only [view, Function.comp_update, standing, if_pos hmem] using hcall
      · have hmissed : ∀ c, s.feed.cursor? k = some c → i < c := by
          intro c hcursor
          by_contra hreached
          exact hmem (h.distinct.mem_audience_iff.mpr ⟨c, hcursor, Int.not_lt.mp hreached⟩)
        have hpass := View.Step.pass hstands hmissed
        simpa only [view, Function.comp_update, standing, if_neg hmem] using hpass
  | @deliver i j rest next =>
      have hrest : j ∉ rest := (List.nodup_cons.mp (h.nodup i _ next)).1
      by_cases hkj : k = j
      · subst hkj
        have howed : (s.view k).standing i = .owed := by
          simp [view, next, standing]
        have hdeliver := View.Step.deliver howed
        refine .inr ?_
        simpa only [view, Function.comp_update, standing, if_neg hrest,
          Function.update_self] using hdeliver
      · refine .inl (View.ext rfl rfl ?_ ?_)
        · exact standing_comp_update next (by simp [standing, hkj])
        · exact Function.update_of_ne hkj ..
  | @fail i j rest next =>
      have hrest : j ∉ rest := (List.nodup_cons.mp (h.nodup i _ next)).1
      by_cases hkj : k = j
      · subst hkj
        have howed : (s.view k).standing i = .owed := by
          simp [view, next, standing]
        have hfail := View.Step.fail howed
        refine .inr ?_
        simpa only [view, Function.comp_update, standing, if_neg hrest, if_true,
          Function.update_self] using hfail
      · refine .inl (View.ext rfl rfl ?_ ?_)
        · exact standing_comp_update next (by simp [standing, hkj])
        · exact Function.update_of_ne hkj ..
  | @drop i j rest broken =>
      have hrest : j ∉ rest := (List.nodup_cons.mp (h.nodup i _ broken)).1
      by_cases hkj : k = j
      · subst hkj
        have hbroken : (s.view k).standing i = .broken := by
          simp [view, broken, standing, hrest]
        have hdrop := View.Step.drop hbroken
        refine .inr ?_
        simpa only [view, Function.comp_update, standing, if_neg hrest,
          cursor?_disconnect_self] using hdrop
      · refine .inl (View.ext rfl ?_ ?_ rfl)
        · exact h.distinct.cursor?_disconnect_of_ne hkj
        · exact standing_comp_update broken (by simp [standing, hkj])
  | @subscribe j since backlog fresh nonneg events =>
      subst events
      by_cases hkj : k = j
      · subst hkj
        have hsubscribe := View.Step.subscribe (v := s.view k) fresh nonneg
          (h.numbered.nodup_index_eventsSince since) (h.numbered.mem_index_eventsSince_iff nonneg)
        refine .inr ?_
        simpa only [view, cursor?_subscribe_self, Function.update_self,
          cursorAfter_eventsSince h.numbered nonneg] using hsubscribe
      · refine .inl (View.ext rfl ?_ rfl ?_)
        · exact cursor?_subscribe_of_ne hkj ..
        · exact Function.update_of_ne hkj ..
  | @leave j =>
      by_cases hkj : k = j
      · subst hkj
        have hleave := View.Step.leave (v := s.view k)
        refine .inr ?_
        simpa only [view, cursor?_disconnect_self] using hleave
      · exact .inl (View.ext rfl (h.distinct.cursor?_disconnect_of_ne hkj) rfl rfl)

end Traffic
end SealedPost.Feed
