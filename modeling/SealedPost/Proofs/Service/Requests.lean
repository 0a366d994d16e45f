import SealedPost.Proofs.Ledger.History
import SealedPost.Service.Basic
import Mathlib.Data.List.Nodup

/-!
# What a request does

A request either leaves the ledger and all sockets alone and at most moves the identifiers of
used tokens, or it is a posting that was answered with 202. One lemma says everything that a
request can do, and the state after it is read off that lemma.
-/

namespace SealedPost.Service

namespace Endpoint

/-- The path of a message leads to the message. -/
theorem ofPath?_message {key : Text} (hkey : key ≠ []) (hslash : CodePoint.char '/' ∉ key) :
    ofPath? (Text.ofString "/messages/" ++ key) = some (.message key) := by
  have hlength : 10 ≤ (trimmed (Text.ofString "/messages/" ++ key)).length := by
    have hstart : (Text.ofString "/messages/").length = 10 := by decide
    have hsome : 0 < key.length := List.length_pos_iff.mpr hkey
    rw [trimmed]
    split
    · rw [List.length_dropLast, List.length_append]
      omega
    · rw [List.length_append]
      omega
  have hne (fixed : Text) (hfixed : fixed.length < 10) :
      trimmed (Text.ofString "/messages/" ++ key) ≠ fixed := by
    intro h
    rw [h] at hlength
    omega
  have hmessage : messageKey? (Text.ofString "/messages/" ++ key) = some key := by
    have hstart : (Text.ofString "/messages/").isPrefixOf (Text.ofString "/messages/" ++ key) :=
      List.isPrefixOf_iff_prefix.mpr (List.prefix_append ..)
    have hplain : ¬ ((key.isEmpty || key.contains (.char '/')) = true) := by
      simp [hkey, hslash]
    rw [messageKey?, if_pos hstart, List.drop_left]
    exact if_neg hplain
  rw [ofPath?, if_neg (hne _ (by decide)), if_neg (hne _ (by decide)), if_neg (hne _ (by decide)),
    hmessage]
  rfl

end Endpoint

/-- The status of a response. -/
def Response.status : Response → Nat
  | .content status _ => status
  | .invalid _ => 422
  | .failed _ => 500

@[simp] theorem status_json (status : Nat) (v : Json) : (Response.json status v).status = status :=
  rfl

@[simp] theorem status_detail (status : Nat) (reason : Text) :
    (Response.detail status reason).status = status :=
  rfl

@[simp] theorem status_invalid (violations : List Wire.Violation) :
    (Response.invalid violations).status = 422 :=
  rfl

@[simp] theorem status_failed (failure : Failure) : (Response.failed failure).status = 500 := rfl

theorem status_of_readBody {r : Request} {response : Response}
    (h : readBody r = .error response) : response.status ≠ 202 := by
  unfold readBody at h
  split at h
  · cases h
  · split at h
    · split at h
      · cases h
      · cases h
      · cases h
        simp
      · cases h
        simp
    · cases h

theorem status_ledgerResponse (fault : LedgerFault) : (ledgerResponse fault).status ≠ 202 := by
  cases fault <;> simp [ledgerResponse]

variable {sv : Service} {r : Request}

/-- A posting that is accepted: its body has the right form, its token convinces, and the ledger
takes it. -/
structure Accepts (sv : Service) (r : Request) (s : Submission) (a : Announcement)
    (cache : Token.Cache) (ledger : Ledger) : Prop where
  posting : ∃ body, readBody r = .ok body ∧ readPosting body = .ok ⟨s.envelope, s.message⟩
  account : Token.authenticate sv.settings sv.clock.seconds sv.cache
    (r.header? "authorization") = (.ok s.account, cache)
  sent : sv.ledger.send s.account s.envelope s.message = .ok (a, ledger)

/-- A posting is accepted and published, or it does nothing but use up its token. -/
theorem post_cases (sv : Service) (r : Request) :
    (∃ response cache, response.status ≠ 202 ∧
      sv.post r = (response, { sv with cache := cache }, [])) ∨
    ∃ s a cache ledger, sv.Accepts r s a cache ledger ∧
      sv.post r = (.json 202 a.toPublic.toJson,
        publish { sv with cache := cache, ledger := ledger } a) := by
  rw [post]
  split
  · next response hbody => exact .inl ⟨response, sv.cache, status_of_readBody hbody, rfl⟩
  · next body hbody =>
      split
      · next refusal cache _ =>
          refine .inl ⟨_, cache, ?_, rfl⟩
          cases refusal <;> decide
      · next account cache haccount =>
          dsimp only
          split
          · next violations _ => exact .inl ⟨.invalid violations, cache, by simp, rfl⟩
          · next posting hposting =>
              split
              · next fault _ => exact .inl ⟨_, cache, status_ledgerResponse fault, rfl⟩
              · next a ledger hsent =>
                  refine .inr ⟨⟨account, posting.envelope, posting.message⟩, a, cache, ledger,
                    ⟨⟨body, hbody, hposting⟩, haccount, hsent⟩, rfl⟩

theorem status_health (sv : Service) : sv.health.status ≠ 202 := by
  rw [health]
  split <;> simp

theorem status_fetch (sv : Service) (key : Text) : (sv.fetch key).status ≠ 202 := by
  rw [fetch]
  split
  · simp
  · split <;> simp

theorem status_listEvents (sv : Service) (query : Text) : (sv.listEvents query).status ≠ 202 := by
  rw [listEvents]
  split <;> simp

/-- A request is a posting that is accepted and published, or it does nothing but use up a
token, and that only if it is a posting. -/
theorem request_cases (sv : Service) (r : Request) :
    (∃ response cache, response.status ≠ 202 ∧
      (r.method ≠ Text.ofString "POST" → cache = sv.cache) ∧
      sv.request r = (response, { sv with cache := cache }, [])) ∨
    (r.method = Text.ofString "POST" ∧ Endpoint.ofPath? r.path = some .messages ∧
      ∃ s a cache ledger, sv.Accepts r s a cache ledger ∧
        sv.request r = (.json 202 a.toPublic.toJson,
          publish { sv with cache := cache, ledger := ledger } a)) := by
  have hkept (response : Response) (h : response.status ≠ 202) :
      ∃ response' cache, response'.status ≠ 202 ∧
        (r.method ≠ Text.ofString "POST" → cache = sv.cache) ∧
        (response, sv, ([] : Transcript)) = (response', { sv with cache := cache }, []) :=
    ⟨response, sv.cache, h, fun _ => rfl, rfl⟩
  rw [request]
  split
  · split
    · exact .inl (hkept _ (by decide))
    · exact .inl (hkept _ (by decide))
  · next endpoint hpath =>
      split
      · exact .inl (hkept _ (by decide))
      · next hmethod =>
          split
          · exact .inl (hkept _ sv.status_health)
          · have hpost : r.method = Text.ofString "POST" := not_ne_iff.mp hmethod
            rcases post_cases sv r with ⟨response, cache, hstatus, heq⟩ | haccepts
            · exact .inl ⟨response, cache, hstatus, fun h => absurd hpost h, heq⟩
            · exact .inr ⟨hpost, hpath, haccepts⟩
          · next key => exact .inl (hkept _ (sv.status_fetch key))
          · exact .inl (hkept _ (sv.status_listEvents r.query))

/-- A request is answered with 202 exactly if it is a posting that is accepted. -/
theorem status_request_eq_202_iff :
    (sv.request r).1.status = 202 ↔
      r.method = Text.ofString "POST" ∧ Endpoint.ofPath? r.path = some .messages ∧
        ∃ s a cache ledger, sv.Accepts r s a cache ledger := by
  constructor
  · intro h
    rcases request_cases sv r with ⟨response, cache, hstatus, -, heq⟩ |
      ⟨hmethod, hpath, s, a, cache, ledger, haccepts, -⟩
    · rw [heq] at h
      exact absurd h hstatus
    · exact ⟨hmethod, hpath, s, a, cache, ledger, haccepts⟩
  · rintro ⟨hmethod, hpath, s, a, cache, ledger, haccepts⟩
    obtain ⟨body, hbody, hposting⟩ := haccepts.posting
    have hpost : ¬ r.method ≠ Endpoint.messages.method := not_not.mpr hmethod
    simp only [request, hpath, if_neg hpost, post, hbody, haccepts.account, hposting,
      haccepts.sent, status_json]

section Delivery

/-- What of a text arrives at sockets: one message for each that is alive. -/
def arrivals (sv : Service) (text : Text) (ids : List Nat) : Transcript :=
  ids.filterMap fun id =>
    (sv.sockets[id]?.filter Socket.isAlive).map fun k => (k.name, .send text)

/-- Delivering a text to sockets without repetition sends it once over each that is alive, and
leaves the ledger alone. -/
theorem deliver_spec (text : Text) {ids : List Nat} (hids : ids.Nodup) (sv : Service) :
    (sv.deliver text ids).2 = sv.arrivals text ids ∧
      (sv.deliver text ids).1.ledger = sv.ledger := by
  induction ids generalizing sv with
  | nil => exact ⟨rfl, rfl⟩
  | cons id rest ih =>
      obtain ⟨hid, hrest⟩ := List.nodup_cons.mp hids
      rw [deliver, arrivals, List.filterMap_cons, transmit]
      cases hsocket : sv.sockets[id]? with
      | none => exact ih hrest _
      | some k =>
          cases halive : k.isAlive with
          | false =>
              simp only [halive, Option.filter_some, Bool.false_eq_true, if_false, Option.map_none]
              exact ih hrest _
          | true =>
              simp only [halive, Option.filter_some, if_true, Option.map_some]
              obtain ⟨hlog, hledger⟩ :=
                ih hrest { sv with sockets := sv.sockets.set id { k with sent := k.sent + 1 } }
              refine ⟨congrArg _ (hlog.trans ?_), hledger⟩
              -- The send has counted at the first socket, and the others are not that socket.
              apply List.filterMap_congr
              intro other hother
              have hne : id ≠ other := fun heq => hid (heq ▸ hother)
              rw [List.getElem?_set_ne hne]

end Delivery

end SealedPost.Service
