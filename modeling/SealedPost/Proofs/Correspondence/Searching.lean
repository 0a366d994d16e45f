import SealedPost.Proofs.Agreement
import SealedPost.Proofs.Correspondence.Outsiders
import SealedPost.Proofs.Correspondence.Refusals

/-!
# Whose key opens a body

A search tries one peer after the other and answers with the first attempt that settles it. A
message settles it, and so does a refused agreement; every other failure is passed over, and the
last peer's is the answer if nothing settles the search. So a peer whose key opens the body is
found wherever it stands, unless a peer whose agreement is refused stands before all such peers.
-/

namespace SealedPost

open Crypto

namespace Correspondence

section Search

variable {attempt : Bytes → Except BoxFault Message}

/-- An attempt that settles a search: it gives a message or fails in a way that is not foreseen. -/
def settled? : Except BoxFault Message → Option (Except BoxFault Message)
  | .ok m => some (.ok m)
  | .error fault => if fault.isDeclared then none else some (.error fault)

theorem settled?_eq_none_iff {result : Except BoxFault Message} :
    settled? result = none ↔ ∃ fault, result = .error fault ∧ fault.isDeclared = true := by
  cases result with
  | ok m => simp [settled?]
  | error fault => cases h : fault.isDeclared <;> simp [settled?, h]

theorem settled?_eq_some_iff {result settling : Except BoxFault Message} :
    settled? result = some settling ↔ result = settling ∧
      ∀ fault, result = .error fault → fault.isDeclared = false := by
  cases result with
  | ok m => simp [settled?]
  | error fault => cases h : fault.isDeclared <;> simp [settled?, h]

/-- A search among peers answers with the first attempt that settles it, or else with the attempt
for the last peer. What was the last failure before it does not matter. -/
theorem searchBody_cons (last : BoxFault) (first : Bytes) (rest : List Bytes) :
    searchBody attempt last (first :: rest) =
      ((first :: rest).findSome? fun p => settled? (attempt p)).getD
        (attempt ((first :: rest).getLast (List.cons_ne_nil _ _))) := by
  -- The failure that is carried along is another one at each step, so it is generalized.
  induction rest generalizing first last with
  | nil =>
      rw [searchBody, List.findSome?_singleton, List.getLast_singleton]
      cases hfirst : attempt first with
      | ok m => rfl
      | error fault => cases hfault : fault.isDeclared <;> simp [settled?, searchBody, hfault]
  | cons second rest ih =>
      rw [searchBody, List.findSome?_cons, List.getLast_cons (List.cons_ne_nil _ _)]
      cases hfirst : attempt first with
      | ok m => rfl
      | error fault =>
          cases hfault : fault.isDeclared with
          | true => simpa [settled?, hfault] using ih fault second
          | false => simp [settled?, hfault]

end Search

/-- A body opens from a peer to a message: the peer is a key with which there is a box, and this
box opens the key and the value of every entry. -/
def OpensFrom (encrypted : Message) (nonce : Nonce) (own : SecretKey) (p : Bytes) (m : Message) :
    Prop :=
  ∃ peer box, peer.bytes = p ∧ Box.agree peer own = .ok box ∧
    List.Forall₂ (fun s e => box.decrypt? nonce s.key = some e.key ∧
      box.decrypt? nonce s.value = some e.value ∧ s.kind = e.kind) encrypted.entries m.entries

/-- The peer is a key, but the agreement with it is refused. -/
def AgreementRefused (own : SecretKey) (p : Bytes) : Prop :=
  ∃ peer : PublicKey, p = peer.bytes ∧ X25519.agree? own.bytes peer.bytes = none

/-- How a peer fails that is passed over: it is no key, or the body does not open. -/
def peerFault (p : Bytes) : BoxFault :=
  if p.length = 32 then .decryptionFailed p else .invalidPublicKey (.bytes p)

/-- Whoever the peer is, it is passed over in a foreseen way. -/
theorem isDeclared_peerFault (p : Bytes) : (peerFault p).isDeclared = true := by
  unfold peerFault
  split <;> rfl

theorem peerFault_ne_agreementRefused (p : Bytes) : peerFault p ≠ .agreementRefused := by
  intro h
  have hdeclared := isDeclared_peerFault p
  rw [h] at hdeclared
  cases hdeclared

section Peers

variable {encrypted : Message} {nonce : Nonce} {own : SecretKey} {p : Bytes}

theorem decryptBody_eq_ok_iff_opensFrom {m : Message} :
    decryptBody encrypted nonce own p = .ok m ↔ OpensFrom encrypted nonce own p m := by
  rw [decryptBody_eq_ok_iff]
  simp only [OpensFrom, ← Box.decryptMessage_eq_ok_iff_entries, Box.decryptMessage_eq_ok_iff]

/-- An attempt that fails in a foreseen way fails as its peer does that is passed over. -/
theorem eq_peerFault_of_decryptBody {fault : BoxFault}
    (h : decryptBody encrypted nonce own p = .error fault) (hdeclared : fault.isDeclared = true) :
    fault = peerFault p := by
  rcases Attempt.bind_eq_error_iff.mp h with hkey | ⟨peer, hkey, hattempt⟩
  · obtain ⟨rfl, hnone⟩ := Material.asPublicKey_eq_error_iff.mp hkey
    have hlength : p.length ≠ 32 := by
      intro hlength
      exact hnone ⟨p, hlength⟩ (Material.asPublicKey_eq_ok_iff.mpr rfl)
    rw [peerFault, if_neg hlength]
  · obtain rfl := Material.asPublicKey_eq_ok_iff.mp hkey
    rcases Attempt.bind_eq_error_iff.mp hattempt with hrefused | ⟨box, hbox, hopen⟩
    · obtain ⟨rfl, -⟩ := Box.agree_eq_error_iff.mp hrefused
      cases hdeclared
    · rw [Box.eq_decryptionFailed_of_decryptMessage hopen, Box.peer_of_agree hbox, peerFault,
        if_pos peer.length_bytes]

/-- A search is settled with a message by the peers from which the body opens. -/
theorem settled?_eq_message_iff {m : Message} :
    settled? (decryptBody encrypted nonce own p) = some (.ok m) ↔
      OpensFrom encrypted nonce own p m := by
  rw [settled?_eq_some_iff, ← decryptBody_eq_ok_iff_opensFrom]
  constructor
  · exact And.left
  · intro h
    refine ⟨h, ?_⟩
    intro fault hfault
    cases h.symm.trans hfault

/-- A search is settled with a failure by the peers whose agreement is refused. -/
theorem settled?_eq_failure_iff {fault : BoxFault} :
    settled? (decryptBody encrypted nonce own p) = some (.error fault) ↔
      fault = .agreementRefused ∧ AgreementRefused own p := by
  have hfails : (decryptBody encrypted nonce own p = .error fault ∧ fault.isDeclared = false) ↔
      fault = .agreementRefused ∧ AgreementRefused own p := decryptBody_fails_undeclared_iff
  rw [settled?_eq_some_iff, ← hfails]
  constructor
  · rintro ⟨h, hundeclared⟩
    exact ⟨h, hundeclared fault h⟩
  · rintro ⟨h, hundeclared⟩
    refine ⟨h, ?_⟩
    intro other hother
    cases h.symm.trans hother
    exact hundeclared

/-- Every other peer is passed over. -/
theorem decryptBody_of_settled?_eq_none
    (h : settled? (decryptBody encrypted nonce own p) = none) :
    decryptBody encrypted nonce own p = .error (peerFault p) := by
  obtain ⟨fault, hfault, hdeclared⟩ := settled?_eq_none_iff.mp h
  rw [hfault, eq_peerFault_of_decryptBody hfault hdeclared]

end Peers

/-- What a search for a body is to do. It gives a message exactly if the body opens from some peer,
and then it is that of the first such peer. Otherwise it fails as the last peer does. -/
structure FindsFirst (encrypted : Message) (nonce : Nonce) (own : SecretKey) (last : BoxFault)
    (peers : List Bytes) : Prop where
  finds : (∃ m, searchBody (decryptBody encrypted nonce own) last peers = .ok m) ↔
    ∃ p ∈ peers, ∃ m, OpensFrom encrypted nonce own p m
  first : ∀ before p after m, peers = before ++ p :: after →
    (∀ q ∈ before, ∀ m, ¬ OpensFrom encrypted nonce own q m) →
    OpensFrom encrypted nonce own p m →
      searchBody (decryptBody encrypted nonce own) last peers = .ok m
  fails : (∀ p ∈ peers, ∀ m, ¬ OpensFrom encrypted nonce own p m) →
    ∀ p, peers.getLast? = some p →
      searchBody (decryptBody encrypted nonce own) last peers = .error (peerFault p)

/-- A peer whose agreement is refused stands before all peers from which the body opens. -/
def StopsShort (encrypted : Message) (nonce : Nonce) (own : SecretKey) (peers : List Bytes) :
    Prop :=
  ∃ before p after, peers = before ++ p :: after ∧
    (∀ q ∈ before, ∀ m, ¬ OpensFrom encrypted nonce own q m) ∧ AgreementRefused own p

section Settling

variable (encrypted : Message) (nonce : Nonce) (own : SecretKey)

/-- The first attempt among peers that settles the search for a body. -/
def settling? (peers : List Bytes) : Option (Except BoxFault Message) :=
  peers.findSome? fun p => settled? (decryptBody encrypted nonce own p)

variable {encrypted nonce own} {before after peers : List Bytes}

theorem settling?_append :
    settling? encrypted nonce own (before ++ after) =
      (settling? encrypted nonce own before).or (settling? encrypted nonce own after) :=
  List.findSome?_append

/-- A message settles a search only if the body opens to it from one of the peers. -/
theorem exists_opensFrom_of_settling? {m : Message}
    (h : settling? encrypted nonce own peers = some (.ok m)) :
    ∃ p ∈ peers, OpensFrom encrypted nonce own p m := by
  obtain ⟨p, hp, hsettled⟩ := List.exists_of_findSome?_eq_some h
  exact ⟨p, hp, settled?_eq_message_iff.mp hsettled⟩

/-- A failure settles a search only if it stops short. -/
theorem stopsShort_of_settling? {fault : BoxFault}
    (h : settling? encrypted nonce own peers = some (.error fault)) :
    fault = .agreementRefused ∧ StopsShort encrypted nonce own peers := by
  obtain ⟨before, p, after, hpeers, hsettled, hbefore⟩ := List.findSome?_eq_some_iff.mp h
  obtain ⟨rfl, hrefused⟩ := settled?_eq_failure_iff.mp hsettled
  refine ⟨rfl, before, p, after, hpeers, ?_, hrefused⟩
  intro q hq m hopens
  cases (hbefore q hq).symm.trans (settled?_eq_message_iff.mpr hopens)

/-- Among peers from which the body does not open, nothing but a refused agreement settles the
search. -/
theorem settling?_of_forall_not_opensFrom
    (h : ∀ q ∈ peers, ∀ m, ¬ OpensFrom encrypted nonce own q m) :
    settling? encrypted nonce own peers = none ∨
      settling? encrypted nonce own peers = some (.error .agreementRefused) := by
  cases hsettling : settling? encrypted nonce own peers with
  | none => exact .inl rfl
  | some result =>
      cases result with
      | ok m =>
          obtain ⟨q, hq, hopens⟩ := exists_opensFrom_of_settling? hsettling
          exact absurd hopens (h q hq m)
      | error fault =>
          obtain ⟨rfl, -⟩ := stopsShort_of_settling? hsettling
          exact .inr rfl

theorem settling?_of_stopsShort (h : StopsShort encrypted nonce own peers) :
    settling? encrypted nonce own peers = some (.error .agreementRefused) := by
  obtain ⟨before, p, after, rfl, hbefore, hrefused⟩ := h
  have hp : settled? (decryptBody encrypted nonce own p) = some (.error .agreementRefused) :=
    settled?_eq_failure_iff.mpr ⟨rfl, hrefused⟩
  have hrest : settling? encrypted nonce own (p :: after) = some (.error .agreementRefused) := by
    rw [settling?, List.findSome?_cons, hp]
  rw [settling?_append, hrest]
  -- The peer settles the search, unless one before it does, which is then refused as well.
  rcases settling?_of_forall_not_opensFrom hbefore with hnone | hfailure
  · rw [hnone, Option.none_or]
  · rw [hfailure, Option.some_or]

/-- The first peer from which the body opens settles a search that does not stop short. -/
theorem settling?_of_first {p : Bytes} {m : Message}
    (hstops : ¬ StopsShort encrypted nonce own (before ++ p :: after))
    (hbefore : ∀ q ∈ before, ∀ m, ¬ OpensFrom encrypted nonce own q m)
    (hopens : OpensFrom encrypted nonce own p m) :
    settling? encrypted nonce own (before ++ p :: after) = some (.ok m) := by
  have hp : settled? (decryptBody encrypted nonce own p) = some (.ok m) :=
    settled?_eq_message_iff.mpr hopens
  have hrest : settling? encrypted nonce own (p :: after) = some (.ok m) := by
    rw [settling?, List.findSome?_cons, hp]
  -- A peer before it that settled the search would make it stop short.
  rcases settling?_of_forall_not_opensFrom hbefore with hnone | hfailure
  · rw [settling?_append, hnone, Option.none_or, hrest]
  · have hwhole : settling? encrypted nonce own (before ++ p :: after) =
        some (.error .agreementRefused) := by
      rw [settling?_append, hfailure, Option.some_or]
    exact absurd (stopsShort_of_settling? hwhole).2 hstops

/-- If nothing settles a search, every peer is passed over. -/
theorem decryptBody_of_settling?_eq_none (h : settling? encrypted nonce own peers = none) :
    ∀ p ∈ peers, decryptBody encrypted nonce own p = .error (peerFault p) := by
  intro p hp
  exact decryptBody_of_settled?_eq_none (List.findSome?_eq_none_iff.mp h p hp)

end Settling

section Outcome

variable {encrypted : Message} {nonce : Nonce} {own : SecretKey} {first : Bytes}
  {rest : List Bytes}

/-- A search that nothing settles fails as the last peer does. -/
theorem searchBody_of_settling?_eq_none
    (h : settling? encrypted nonce own (first :: rest) = none) (last : BoxFault) :
    searchBody (decryptBody encrypted nonce own) last (first :: rest) =
      .error (peerFault ((first :: rest).getLast (List.cons_ne_nil _ _))) := by
  have hlast := decryptBody_of_settling?_eq_none h _ (List.getLast_mem (List.cons_ne_nil _ _))
  unfold settling? at h
  rw [searchBody_cons, h, Option.getD_none, hlast]

theorem searchBody_of_settling?_eq_some {result : Except BoxFault Message}
    (h : settling? encrypted nonce own (first :: rest) = some result) (last : BoxFault) :
    searchBody (decryptBody encrypted nonce own) last (first :: rest) = result := by
  unfold settling? at h
  rw [searchBody_cons, h, Option.getD_some]

/-- The failure that is not foreseen tells that a search has stopped short. -/
theorem searchBody_eq_agreementRefused_iff (last : BoxFault) :
    searchBody (decryptBody encrypted nonce own) last (first :: rest) = .error .agreementRefused ↔
      StopsShort encrypted nonce own (first :: rest) := by
  constructor
  · intro h
    cases hsettling : settling? encrypted nonce own (first :: rest) with
    | none =>
        rw [searchBody_of_settling?_eq_none hsettling] at h
        exact absurd (Except.error.inj h) (peerFault_ne_agreementRefused _)
    | some result =>
        obtain rfl := (searchBody_of_settling?_eq_some hsettling last).symm.trans h
        exact (stopsShort_of_settling? hsettling).2
  · intro hstops
    exact searchBody_of_settling?_eq_some (settling?_of_stopsShort hstops) last

theorem findsFirst_of_not_stopsShort (hstops : ¬ StopsShort encrypted nonce own (first :: rest))
    (last : BoxFault) : FindsFirst encrypted nonce own last (first :: rest) where
  finds := by
    constructor
    · rintro ⟨m, h⟩
      cases hsettling : settling? encrypted nonce own (first :: rest) with
      | none =>
          rw [searchBody_of_settling?_eq_none hsettling] at h
          cases h
      | some result =>
          obtain rfl := (searchBody_of_settling?_eq_some hsettling last).symm.trans h
          obtain ⟨p, hp, hopens⟩ := exists_opensFrom_of_settling? hsettling
          exact ⟨p, hp, m, hopens⟩
    · rintro ⟨p, hp, m, hopens⟩
      cases hsettling : settling? encrypted nonce own (first :: rest) with
      | none =>
          have hpassed := decryptBody_of_settling?_eq_none hsettling p hp
          cases hpassed.symm.trans (decryptBody_eq_ok_iff_opensFrom.mpr hopens)
      | some result =>
          cases result with
          | ok found => exact ⟨found, searchBody_of_settling?_eq_some hsettling last⟩
          | error fault => exact absurd (stopsShort_of_settling? hsettling).2 hstops
  first := by
    intro before p after m hpeers hbefore hopens
    rw [hpeers] at hstops
    have hsettling := settling?_of_first hstops hbefore hopens
    rw [← hpeers] at hsettling
    exact searchBody_of_settling?_eq_some hsettling last
  fails := by
    intro hnone p hp
    rw [List.getLast?_eq_some_getLast (List.cons_ne_nil _ _)] at hp
    obtain rfl := Option.some.inj hp
    rcases settling?_of_forall_not_opensFrom hnone with hsettling | hfailure
    · exact searchBody_of_settling?_eq_none hsettling last
    · exact absurd (stopsShort_of_settling? hfailure).2 hstops

/-- A search that stops short hides the peers that come later, or fails in another way than the
last peer does. -/
theorem not_findsFirst_of_stopsShort (hstops : StopsShort encrypted nonce own (first :: rest))
    (last : BoxFault) : ¬ FindsFirst encrypted nonce own last (first :: rest) := by
  intro hfinds
  have hfailure := (searchBody_eq_agreementRefused_iff last).mpr hstops
  by_cases hopens : ∃ p ∈ first :: rest, ∃ m, OpensFrom encrypted nonce own p m
  · obtain ⟨m, hm⟩ := hfinds.finds.mpr hopens
    cases hfailure.symm.trans hm
  · have hnone : ∀ p ∈ first :: rest, ∀ m, ¬ OpensFrom encrypted nonce own p m := by
      intro p hp m hm
      exact hopens ⟨p, hp, m, hm⟩
    have hfault := hfinds.fails hnone _ (List.getLast?_eq_some_getLast (List.cons_ne_nil _ _))
    exact peerFault_ne_agreementRefused _ (Except.error.inj (hfault.symm.trans hfailure))

end Outcome

/-- A search among any peers gives the message of the first peer from which the body opens, or
fails as the last peer does if there is none, exactly if no peer whose agreement is refused stands
before all peers from which the body opens. If one does, the search ends there in the failure that
is not foreseen, whoever comes later. -/
theorem search_finds_first_iff (encrypted : Message) (nonce : Nonce) (own : SecretKey)
    (last : BoxFault) (first : Bytes) (rest : List Bytes) :
    (FindsFirst encrypted nonce own last (first :: rest) ↔
      ¬ StopsShort encrypted nonce own (first :: rest)) ∧
    (searchBody (decryptBody encrypted nonce own) last (first :: rest) =
        .error .agreementRefused ↔
      StopsShort encrypted nonce own (first :: rest)) := by
  refine ⟨⟨?_, ?_⟩, searchBody_eq_agreementRefused_iff last⟩
  · intro hfinds hstops
    exact not_findsFirst_of_stopsShort hstops last hfinds
  · intro hstops
    exact findsFirst_of_not_stopsShort hstops last

/-- The key of zeros. -/
def barrenKey : PublicKey := ⟨List.replicate 32 0, List.length_replicate⟩

theorem exists_box_of_noteRecipient :
    ∃ box, Box.agree noteRecipient.publicKey noteSender = .ok box :=
  Attempt.exists_eq_ok_of_isOk (by decide +kernel)

/-- The sender of a note does not find its recipient behind the key of zeros, although the body
opens from the recipient. -/
theorem barrenKey_hides_recipient : ∃ box,
    Box.agree noteRecipient.publicKey noteSender = .ok box ∧
      let nonce := noteEntropy.nonce.1
      let encrypted := box.encryptMessage nonce note
      OpensFrom encrypted nonce noteSender noteRecipient.publicKey.bytes note ∧
      ∀ last, ¬ FindsFirst encrypted nonce noteSender last
        [barrenKey.bytes, noteRecipient.publicKey.bytes] := by
  obtain ⟨box, hbox⟩ := exists_box_of_noteRecipient
  refine ⟨box, hbox, ?_⟩
  intro nonce encrypted
  have hrefused : AgreementRefused noteSender barrenKey.bytes :=
    ⟨barrenKey, rfl, X25519.agree?_eq_none_of_coordinate (by decide) _⟩
  constructor
  · apply decryptBody_eq_ok_iff_opensFrom.mp
    rw [decryptBody_of_agree hbox]
    exact Box.decryptMessage_encryptMessage rfl nonce note
  · intro last
    apply not_findsFirst_of_stopsShort
    exact ⟨[], _, _, rfl, List.forall_mem_nil _, hrefused⟩

end Correspondence
end SealedPost
