import SealedPost.Proofs.Feed.Service
import SealedPost.Proofs.Hex
import SealedPost.Proofs.Ledger.Persistence
import SealedPost.Proofs.Token.Replay
import Mathlib.Data.List.Induction

/-!
# Postings are all or nothing

A posting that is answered with 202 appends one event, publishes it once, and answers with the
document under which the event is listed and sent from then on; its message can be fetched under
the key of the event. Every other request leaves the ledger as it is and sends nothing.
-/

namespace SealedPost.Service

/-- What a posting does that is answered with 202: the submission is what its body holds, of the
account that its token proves; its announcement is appended to the ledger, answered, and sent
once to each subscriber that has not seen it and can be reached. -/
structure Posts (sv : Service) (r : Request) (s : Submission) (a : Announcement) : Prop where
  method : r.method = "POST"
  path : Endpoint.ofPath? r.path = some .messages
  posting : ∃ body, readBody r = .ok body ∧ readPosting body = .ok ⟨s.envelope, s.message⟩
  account : (Token.authenticate sv.settings sv.clock.seconds sv.cache
    (r.header? "authorization")).1 = .ok s.account
  appends : sv.ledger.Appends s a (sv.request r).2.1.ledger
  response : (sv.request r).1 = .json 202 a.toPublic.toJson
  audience : (sv.feed.audience a.index).Nodup
  transcript : (sv.request r).2.2 =
    sv.arrivals (liveMessage a.toPublic) (sv.feed.audience a.index)

/-- What a service shows of an announced message: the announcement at its place in every listing
and every backlog that goes back to it, and the message under its key. -/
structure Shows (sv : Service) (a : Announcement) (message : Bytes) : Prop where
  listed : ∀ (r : Request) (since : Int), r.method = "GET" →
    Endpoint.ofPath? r.path = some .events → readSince r.query = .ok since → since ≤ a.index →
    ∃ items, (sv.request r).1 = .json 200 (.arr items) ∧
      items[(a.index - since).toNat]? = some a.toPublic.toJson
  backlog : ∀ (name path query : Text) (failAfter : Option Nat) (since : Int),
    Endpoint.isFeed path = true → readSince query = .ok since → since ≤ a.index →
    ∃ items, items[(a.index - since).toNat]? = some a.toPublic.toJson ∧
      ∀ socket text, (socket, .send text) ∈ (sv.connect name path query failAfter).2 →
        text = Json.writeCompact (.obj [("type", .str "events.init"), ("data", .arr items)])
  fetched : ∀ r : Request, r.method = "GET" →
    r.path = Text.ofString "/messages/" ++ Bytes.toHex a.key →
    (sv.request r).1 = .json 200 (.obj [("key", .str (Bytes.toHex a.key)),
      ("message", .str (Base64.encode message))])

variable {sv : Service} {r : Request}

/-- A request appends and publishes what is posted, or it leaves the ledger as it is and sends
nothing. -/
theorem request_status_cases (hfeed : sv.feed.Distinct) (r : Request) :
    ((sv.request r).1.status ≠ 202 ∧ (sv.request r).2.1.ledger = sv.ledger ∧
      (sv.request r).2.2 = []) ∨
    ((sv.request r).1.status = 202 ∧ ∃ s a, sv.Posts r s a ∧
      sv.ledger.send s.account s.envelope s.message = .ok (a, (sv.request r).2.1.ledger)) := by
  rcases request_cases sv r with ⟨response, cache, hstatus, -, heq⟩ |
    ⟨hmethod, hpath, s, a, cache, ledger, haccepts, heq⟩
  · rw [heq]
    exact .inl ⟨hstatus, rfl, rfl⟩
  · have haudience := hfeed.nodup_audience a.index
    obtain ⟨hlog, hledger⟩ := deliver_spec (liveMessage a.toPublic) haudience
      { sv with cache := cache, ledger := ledger }
    have hsent := haccepts.sent
    have hafter : (sv.request r).2.1.ledger = ledger := by
      rw [heq]
      exact hledger
    refine .inr ⟨by rw [heq, status_json], s, a, ?_, by rw [hafter, hsent]⟩
    exact {
      method := hmethod
      path := hpath
      posting := haccepts.posting
      account := congrArg Prod.fst haccepts.account
      appends := hafter ▸ Ledger.appends_of_send hsent
      response := by rw [heq]
      audience := haudience
      transcript := by
        rw [heq]
        exact hlog }

/-- A request other than a posting changes nothing at all. -/
theorem request_of_ne_post (h : r.method ≠ Text.ofString "POST") :
    (sv.request r).2 = (sv, []) := by
  rcases request_cases sv r with ⟨response, cache, -, hcache, heq⟩ | ⟨hmethod, -⟩
  · rw [heq, hcache h]
  · exact absurd hmethod h

theorem ledger_refuse (sv : Service) (id code : Nat) :
    (sv.refuse id code).1.ledger = sv.ledger := by
  rw [refuse]
  split
  · next htransmit => exact (transmit_eq_some htransmit).1
  · rfl

theorem ledger_serveFeed (sv : Service) (id : Nat) (since : Int) :
    (sv.serveFeed id since).1.ledger = sv.ledger := by
  rw [serveFeed]
  split
  · rfl
  · next haccepted =>
      dsimp only
      split
      · exact (transmit_eq_some haccepted).1
      · next hsent => exact (transmit_eq_some hsent).1.trans (transmit_eq_some haccepted).1

theorem ledger_connect (sv : Service) (name path query : Text) (failAfter : Option Nat) :
    (sv.connect name path query failAfter).1.ledger = sv.ledger := by
  rw [connect]
  split
  · split
    · rw [ledger_refuse]
    · rw [ledger_serveFeed]
  · rw [ledger_refuse]

theorem ledger_hangUp (sv : Service) (name : Text) : (sv.hangUp name).ledger = sv.ledger := by
  rw [hangUp]
  split <;> rfl

theorem ledger_sever (sv : Service) (name : Text) : (sv.sever name).ledger = sv.ledger := by
  rw [sever]
  split <;> rfl

/-- Only a posting that is answered with 202 changes the ledger. -/
theorem after_cases (hfeed : sv.feed.Distinct) (o : Occurrence) :
    (sv.after o).ledger = sv.ledger ∨
    ∃ r s a, o = .request r ∧ sv.Posts r s a ∧
      sv.ledger.send s.account s.envelope s.message = .ok (a, (sv.after o).ledger) := by
  cases o with
  | request r =>
      rcases request_status_cases hfeed r with ⟨-, hledger, -⟩ | ⟨-, s, a, hposts, hsent⟩
      · exact .inl hledger
      · exact .inr ⟨r, s, a, rfl, hposts, hsent⟩
  | connect name path query failAfter => exact .inl (sv.ledger_connect name path query failAfter)
  | hangUp name => exact .inl (sv.ledger_hangUp name)
  | sever name => exact .inl (sv.ledger_sever name)
  | passTime clock => exact .inl rfl

section Showing

variable {a : Announcement} {message : Bytes} {n : Nat} {since : Int}

/-- The announcements from an index on, as they are listed. -/
def listing (sv : Service) (since : Int) : List Json :=
  (sv.ledger.eventsSince since).map fun a => a.toPublic.toJson

theorem getElem?_listing (hevent : sv.ledger.events[n]? = some a) (hsince : 0 ≤ since)
    (hle : since ≤ n) : (sv.listing since)[(n - since).toNat]? = some a.toPublic.toJson := by
  have hplace : since.toNat + (n - since).toNat = n := by omega
  rw [listing, List.getElem?_map, Ledger.eventsSince, List.getElem?_drop, hplace, hevent]
  rfl

theorem request_events (hmethod : r.method = Text.ofString "GET")
    (hpath : Endpoint.ofPath? r.path = some .events) (hsince : readSince r.query = .ok since) :
    (sv.request r).1 = .json 200 (.arr (sv.listing since)) := by
  have hget : ¬ r.method ≠ Endpoint.events.method := not_not.mpr hmethod
  simp only [request, hpath, if_neg hget, listEvents, hsince]
  rfl

/-- A message that is stored can be fetched under its key in hexadecimal. -/
theorem request_message {key : Bytes} (hmethod : r.method = Text.ofString "GET")
    (hpath : r.path = Text.ofString "/messages/" ++ Bytes.toHex key) (hkey : key ≠ [])
    (hfound : sv.ledger.get? key = some message) :
    (sv.request r).1 = .json 200 (StoredMessage.toJson ⟨Bytes.toHex key, message⟩) := by
  have hslash : CodePoint.char '/' ∉ Bytes.toHex key := by
    intro hmem
    obtain ⟨n, hn, heq⟩ := Bytes.exists_of_mem_toHex hmem
    exact Bytes.hexDigit_ne_slash hn (CodePoint.char.inj heq).symm
  have hendpoint := Endpoint.ofPath?_message (Bytes.toHex_ne_nil hkey) hslash
  have hget : ¬ r.method ≠ (Endpoint.message (Bytes.toHex key)).method := not_not.mpr hmethod
  simp only [request, hpath, hendpoint, if_neg hget, fetch, Bytes.ofHex?_toHex, hfound]

/-- What goes out over a socket is the signal that was sent. -/
theorem transmit_signal {sv' : Service} {id : Nat} {signal : Signal} {entry : Text × Signal}
    (h : sv.transmit id signal = some (sv', entry)) : entry.2 = signal := by
  rw [transmit] at h
  split at h
  · cases h
  · split at h
    · cases h
      rfl
    · cases h

/-- The only text that a new socket is sent is its backlog. -/
theorem text_of_mem_connect {name path query socket text : Text} {failAfter : Option Nat}
    (hpath : Endpoint.isFeed path = true) (hsince : readSince query = .ok since)
    (h : (socket, .send text) ∈ (sv.connect name path query failAfter).2) :
    text = firstMessage (sv.ledger.eventsSince since) := by
  simp only [connect, hpath, if_true, hsince, serveFeed] at h
  split at h
  · cases h
  · next sv₁ accepted haccepted =>
      have haccept := transmit_signal haccepted
      split at h
      · cases List.mem_singleton.mp h
        cases haccept
      · next sv₂ sent hsent =>
          have hbacklog := transmit_signal hsent
          rw [(transmit_eq_some haccepted).1] at hbacklog
          rcases List.mem_cons.mp h with rfl | h
          · cases haccept
          · cases List.mem_singleton.mp h
            exact Signal.send.inj hbacklog

/-- A service whose ledger has an event and its message shows them. -/
theorem shows_of_event (hevent : sv.ledger.events[n]? = some a) (hindex : a.index = n)
    (hkey : a.key ≠ []) (hfound : sv.ledger.get? a.key = some message) : sv.Shows a message where
  listed := by
    intro r since hmethod hpath hsince hle
    rw [hindex] at hle ⊢
    exact ⟨sv.listing since, request_events hmethod hpath hsince,
      getElem?_listing hevent (nonneg_of_readSince hsince) hle⟩
  backlog := by
    intro name path query failAfter since hpath hsince hle
    rw [hindex] at hle ⊢
    exact ⟨sv.listing since, getElem?_listing hevent (nonneg_of_readSince hsince) hle,
      fun socket text h => text_of_mem_connect hpath hsince h⟩
  fetched := fun r hmethod hpath => request_message hmethod hpath hkey hfound

end Showing

section Run

/-- A service after what happened to it. -/
def run (sv : Service) (occurrences : List Occurrence) : Service := occurrences.foldl after sv

theorem run_append (sv : Service) (past later : List Occurrence) :
    sv.run (past ++ later) = (sv.run past).run later :=
  List.foldl_append

theorem run_concat (sv : Service) (past : List Occurrence) (o : Occurrence) :
    sv.run (past ++ [o]) = (sv.run past).after o :=
  run_append sv past [o]

variable (settings : Settings) (counter : Int)

theorem distinct_run (past : List Occurrence) :
    ((start settings counter).run past).feed.Distinct := by
  obtain ⟨s, steps, hfollows⟩ := exists_steps_of_run settings counter past
  rw [run, ← hfollows.feed]
  exact ((Feed.Traffic.coherent_start counter).steps steps).distinct

/-- Whatever happens, the ledger goes on from what it was. -/
theorem extends_run (past later : List Occurrence) :
    ((start settings counter).run past).ledger.Extends
      ((start settings counter).run (past ++ later)).ledger := by
  induction later using List.reverseRecOn with
  | nil =>
      rw [List.append_nil]
      exact .refl _
  | append_singleton later o ih =>
      refine ih.trans ?_
      rw [← List.append_assoc, run_concat]
      rcases after_cases (distinct_run settings counter (past ++ later)) o with
        hledger | ⟨-, s, a, -, -, hsent⟩
      · rw [hledger]
        exact .refl _
      · exact Ledger.extends_of_send hsent

/-- Once a posting was answered with 202, its announcement and its message are shown. -/
theorem shows_after_posting {past : List Occurrence} (later : List Occurrence) {r : Request}
    {s : Submission} {a : Announcement} (hposts : ((start settings counter).run past).Posts r s a)
    (hsent : ((start settings counter).run past).ledger.send s.account s.envelope s.message =
      .ok (a, ((start settings counter).run (past ++ [.request r])).ledger)) :
    ((start settings counter).run (past ++ .request r :: later)).Shows a s.message := by
  have hextends := extends_run settings counter (past ++ [.request r]) later
  rw [List.append_assoc, List.singleton_append] at hextends
  obtain ⟨hevent, hfound⟩ := hextends.lasting hsent
  refine shows_of_event hevent hposts.appends.index ?_ hfound
  intro hnil
  have hlength := congrArg List.length (hposts.appends.key.symm.trans hnil)
  simp at hlength

/-- Every event was appended by a posting that was answered with 202. -/
theorem exists_posting_of_mem_events {past : List Occurrence} {a : Announcement}
    (ha : a ∈ ((start settings counter).run past).ledger.events) :
    ∃ before later r s, past = before ++ .request r :: later ∧
      ((start settings counter).run before).Posts r s a ∧
      ((start settings counter).run before).ledger.send s.account s.envelope s.message =
        .ok (a, ((start settings counter).run (before ++ [.request r])).ledger) := by
  -- The induction is on the end of the past, where the last occurrence has the state before it.
  induction past using List.reverseRecOn with
  | nil => cases ha
  | append_singleton past o ih =>
      rw [run_concat] at ha
      rcases after_cases (distinct_run settings counter past) o with
        hledger | ⟨r, s, b, rfl, hposts, hsent⟩
      · obtain ⟨before, later, r, s, rfl, hposted⟩ := ih (hledger ▸ ha)
        exact ⟨before, later ++ [o], r, s, by simp, hposted⟩
      · rw [(Ledger.appends_of_send hsent).events, List.mem_append, List.mem_singleton] at ha
        rcases ha with ha | rfl
        · obtain ⟨before, later, r', s', rfl, hposted⟩ := ih ha
          exact ⟨before, later ++ [.request r], r', s', by simp, hposted⟩
        · exact ⟨past, [], r, s, rfl, hposts, (run_concat ..) ▸ hsent⟩

end Run

/-- In every state that a service reaches from its start: a request other than a posting changes
nothing; one that is not answered with 202 leaves the ledger as it is and sends nothing; one is
answered with 202 exactly if it is a posting whose body, token and submission are accepted, and
then it posts one message, which is shown whatever happens later; and every event of the ledger
was posted in this way and is shown. -/
theorem posting_is_all_or_nothing (settings : Settings) (counter : Int)
    (past : List Occurrence) :
    let sv := (start settings counter).run past
    (∀ r : Request, r.method ≠ "POST" → (sv.request r).2 = (sv, [])) ∧
    (∀ r : Request, (sv.request r).1.status ≠ 202 →
      (sv.request r).2.1.ledger = sv.ledger ∧ (sv.request r).2.2 = []) ∧
    (∀ r : Request, (sv.request r).1.status = 202 ↔
      r.method = "POST" ∧ Endpoint.ofPath? r.path = some .messages ∧
        ∃ s a cache ledger, sv.Accepts r s a cache ledger) ∧
    (∀ r : Request, (sv.request r).1.status = 202 → ∃ s a, sv.Posts r s a ∧
      ∀ later : List Occurrence, ((sv.request r).2.1.run later).Shows a s.message) ∧
    ∀ a ∈ sv.ledger.events, ∃ (before later : List Occurrence) (r : Request) (s : Submission),
      past = before ++ .request r :: later ∧
      ((start settings counter).run before).Posts r s a ∧ sv.Shows a s.message := by
  intro sv
  have hfeed : sv.feed.Distinct := distinct_run settings counter past
  refine ⟨?_, ?_, ?_, ?_, ?_⟩
  · intro r hmethod
    exact request_of_ne_post hmethod
  · intro r hstatus
    rcases request_status_cases hfeed r with ⟨-, hnothing⟩ | ⟨hposted, -⟩
    · exact hnothing
    · exact absurd hposted hstatus
  · intro r
    exact status_request_eq_202_iff
  · intro r hstatus
    rcases request_status_cases hfeed r with ⟨hrefused, -⟩ | ⟨-, s, a, hposts, hsent⟩
    · exact absurd hstatus hrefused
    · refine ⟨s, a, hposts, ?_⟩
      intro later
      have hafter : (start settings counter).run (past ++ [.request r]) = (sv.request r).2.1 :=
        run_concat ..
      have hshows := shows_after_posting settings counter later hposts (hafter ▸ hsent)
      rw [← List.singleton_append, ← List.append_assoc, run_append, hafter] at hshows
      exact hshows
  · intro a ha
    obtain ⟨before, later, r, s, hpast, hposts, hsent⟩ :=
      exists_posting_of_mem_events settings counter ha
    have hshows := shows_after_posting settings counter later hposts hsent
    rw [← hpast] at hshows
    exact ⟨before, later, r, s, hpast, hposts, hshows⟩

/-- The time of the token for an hour comes, and a subscriber. -/
def smallPast : List Occurrence :=
  [.passTime (.ofInt 1700000000), .connect "a" "/ws/events" [] none]

/-- A posting of one byte with the token for an hour. -/
def smallPosting : Request where
  method := "POST"
  path := "/messages"
  query := []
  headers := [("content-type", "application/json"), ("authorization", Token.hourToken)]
  body := Utf8.encode (Json.writeCompact (Posting.toJson ⟨Feed.Traffic.smallEnvelope, [3]⟩))

theorem status_smallPosting :
    (((start .default 0).run smallPast).request smallPosting).1.status = 202 := by
  decide +kernel

theorem status_without_token : (((start .default 0).run smallPast).request
    { smallPosting with headers := [] }).1.status ≠ 202 := by
  decide +kernel

/-- The posting of one byte is answered with 202, sent once to the subscriber, and shown from
then on; without its token it leaves the ledger as it is, and read as a query it does nothing. -/
theorem smallPosting_posted :
    ∃ sv s a, sv = (start .default 0).run smallPast ∧ sv.Posts smallPosting s a ∧
      (∀ later, ((sv.request smallPosting).2.1.run later).Shows a s.message) ∧
      (sv.request smallPosting).2.2 =
        [(Text.ofString "a", .send (liveMessage a.toPublic))] ∧
      (sv.request { smallPosting with headers := [] }).2.1.ledger = sv.ledger ∧
      (sv.request { smallPosting with method := "GET" }).2 = (sv, []) := by
  obtain ⟨hother, hrefused, -, hposted, -⟩ := posting_is_all_or_nothing .default 0 smallPast
  obtain ⟨s, a, hposts, hshows⟩ := hposted smallPosting status_smallPosting
  refine ⟨_, s, a, rfl, hposts, hshows, ?_, (hrefused _ status_without_token).1,
    hother _ (by decide)⟩
  have hindex : a.index = 0 := hposts.appends.index
  rw [hposts.transcript, hindex]
  rfl

end SealedPost.Service
