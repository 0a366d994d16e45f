import SealedPost.Proofs.Correspondence.Failures
import SealedPost.Proofs.Correspondence.Ownership

/-!
# Channels of others do not matter

The channels of an envelope are searched in two ways, up to the first one that opens or through
all of them. The searches agree wherever the second one ends, and where the first one fails the
second fails in the same way. Both pass over the channels that do not open, so a reader finds the
same whichever channels of others there are, and wherever they stand.
-/

namespace SealedPost

namespace Envelope

section Search

variable {scan : Channel → Except BoxFault (Option Discovery)} {channels : List Channel}

/-- The search for the first channel finds the first of all that open. -/
theorem firstOpen_of_allOpen {found : List Discovery} (h : allOpen scan channels = .ok found) :
    firstOpen scan channels = .ok found.head? := by
  obtain ⟨results, hresults, hpure⟩ := Attempt.bind_eq_ok_iff.mp h
  obtain rfl := Attempt.pure_eq_ok_iff.mp hpure
  exact firstOpen_eq_ok (Attempt.mapM_eq_ok_iff.mp hresults)

/-- Where the search for the first channel fails, so does the search for all, in the same way:
the channels before the one that fails have been tried by both. -/
theorem allOpen_eq_error_of_firstOpen {fault : BoxFault}
    (h : firstOpen scan channels = .error fault) : allOpen scan channels = .error fault := by
  obtain ⟨before, c, after, hchannels, hbefore, hc⟩ := firstOpen_eq_error_iff.mp h
  refine Attempt.bind_eq_error_iff.mpr (.inl (Attempt.mapM_eq_error_iff.mpr ?_))
  exact ⟨before, c, after, hchannels, fun b hb => ⟨none, hbefore b hb⟩, hc⟩

/-- Channels that are passed over can be left out of the search for the first channel. -/
theorem firstOpen_filter {p : Channel → Bool}
    (h : ∀ c ∈ channels, p c = false → scan c = .ok none) :
    firstOpen scan (channels.filter p) = firstOpen scan channels := by
  induction channels with
  | nil => rfl
  | cons c rest ih =>
      obtain ⟨hc, hrest⟩ := List.forall_mem_cons.mp h
      cases hp : p c with
      | false =>
          rw [List.filter_cons_of_neg (ne_true_of_eq_false hp), ih hrest, firstOpen, hc hp]
      | true => rw [List.filter_cons_of_pos hp, firstOpen, firstOpen, ih hrest]

/-- A channel that opens comes before those of the others that do. -/
theorem allOpen_cons (c : Channel) (rest : List Channel) :
    allOpen scan (c :: rest) =
      scan c >>= fun result => (allOpen scan rest).map (result.toList ++ ·) := by
  rw [allOpen, allOpen, List.mapM_cons]
  cases scan c with
  | error fault => rfl
  | ok result =>
      cases rest.mapM scan with
      | error fault => rfl
      | ok results => cases result <;> rfl

/-- Channels that are passed over can be left out of the search for all channels. -/
theorem allOpen_filter {p : Channel → Bool}
    (h : ∀ c ∈ channels, p c = false → scan c = .ok none) :
    allOpen scan (channels.filter p) = allOpen scan channels := by
  induction channels with
  | nil => rfl
  | cons c rest ih =>
      obtain ⟨hc, hrest⟩ := List.forall_mem_cons.mp h
      cases hp : p c with
      | false =>
          rw [List.filter_cons_of_neg (ne_true_of_eq_false hp), ih hrest, allOpen_cons, hc hp,
            Attempt.ok_bind]
          cases allOpen scan rest <;> rfl
      | true => rw [List.filter_cons_of_pos hp, allOpen_cons, allOpen_cons, ih hrest]

/-- The search for the first channel finds none exactly if that for all finds none. -/
theorem firstOpen_eq_ok_none_iff :
    firstOpen scan channels = .ok none ↔ allOpen scan channels = .ok [] := by
  refine ⟨fun h => ?_, firstOpen_of_allOpen⟩
  induction channels with
  | nil => rfl
  | cons c rest ih =>
      rw [firstOpen] at h
      split at h
      · cases h
      · cases h
      · next hpassed =>
          rw [allOpen_cons, hpassed, Attempt.ok_bind, ih h]
          rfl

end Search

/-- A channel that a reader of an envelope passes over. -/
def Foreign (e : Envelope) (own : Material) (c : Channel) : Prop :=
  c.scanWith (.bytes e.publicNonce) (.bytes e.relayKey) own = .ok none

instance (e : Envelope) (own : Material) : DecidablePred (e.Foreign own) :=
  fun c => inferInstanceAs
    (Decidable (c.scanWith (.bytes e.publicNonce) (.bytes e.relayKey) own = .ok none))

/-- An envelope without the channels that a reader passes over. -/
def withoutForeign (e : Envelope) (own : Material) : Envelope :=
  { e with channels := e.channels.filter fun c => ¬e.Foreign own c }

/-- The two searches of an envelope, for the first channel that opens and for all of them,
agree. -/
structure SearchesAgree (e : Envelope) (own : Material) : Prop where
  passed : e.openWith own = .ok none ↔
    ∃ plain, e.decryptWith own = .ok plain ∧ plain.channels = []
  opened : ∀ plain c rest, e.decryptWith own = .ok plain → plain.channels = c :: rest →
    ∃ d, e.openWith own = .ok (some d) ∧ d.opened = ⟨c.sealedNonce, c.sealedParticipants⟩ ∧
      c.sealedNonce.length = 24
  failed : ∀ fault, e.openWith own = .error fault → e.decryptWith own = .error fault
  kept : ∀ plain, e.decryptWith own = .ok plain → plain.publicNonce = e.publicNonce ∧
    plain.relayKey = e.relayKey ∧ plain.commitment = e.commitment

section Reader

variable {e : Envelope} {own : Material}

theorem decryptWith_eq_ok_iff {plain : Envelope} :
    e.decryptWith own = .ok plain ↔ ∃ scan found, e.scanner own = .ok scan ∧
      allOpen scan e.channels = .ok found ∧
      plain = { e with channels := found.map fun d => ⟨d.secretNonce.bytes, d.participants⟩ } := by
  simp only [decryptWith, Attempt.bind_eq_ok_iff, Attempt.pure_eq_ok_iff, @eq_comm _ _ plain]
  constructor
  · rintro ⟨scan, hscan, found, hfound, h⟩
    exact ⟨scan, found, hscan, hfound, h⟩
  · rintro ⟨scan, found, hscan, hfound, h⟩
    exact ⟨scan, hscan, found, hfound, h⟩

theorem searchesAgree (e : Envelope) (own : Material) : e.SearchesAgree own where
  passed := by
    constructor
    · intro h
      obtain ⟨scan, hscan, hfirst⟩ := Attempt.bind_eq_ok_iff.mp h
      have hnone := firstOpen_eq_ok_none_iff.mp hfirst
      exact ⟨_, decryptWith_eq_ok_iff.mpr ⟨scan, [], hscan, hnone, rfl⟩, rfl⟩
    · rintro ⟨plain, hplain, hnil⟩
      obtain ⟨scan, found, hscan, hfound, rfl⟩ := decryptWith_eq_ok_iff.mp hplain
      obtain rfl := List.map_eq_nil_iff.mp hnil
      exact Attempt.bind_eq_ok_iff.mpr ⟨scan, hscan, firstOpen_of_allOpen hfound⟩
  opened := by
    intro plain c rest hplain hcons
    obtain ⟨scan, found, hscan, hfound, rfl⟩ := decryptWith_eq_ok_iff.mp hplain
    obtain ⟨d, later, rfl, rfl, -⟩ := List.map_eq_cons_iff.mp hcons
    refine ⟨d, ?_, rfl, d.secretNonce.length_bytes⟩
    exact Attempt.bind_eq_ok_iff.mpr ⟨scan, hscan, firstOpen_of_allOpen hfound⟩
  failed := by
    intro fault h
    rcases Attempt.bind_eq_error_iff.mp h with hscanner | ⟨scan, hscan, hfirst⟩
    · exact Attempt.bind_eq_error_iff.mpr (.inl hscanner)
    · apply Attempt.bind_eq_error_iff.mpr
      exact .inr ⟨scan, hscan, Attempt.bind_eq_error_iff.mpr
        (.inl (allOpen_eq_error_of_firstOpen hfirst))⟩
  kept := by
    intro plain h
    obtain ⟨scan, found, -, -, rfl⟩ := decryptWith_eq_ok_iff.mp h
    exact ⟨rfl, rfl, rfl⟩

/-- Whether a channel is foreign shows in the search that the reader makes. -/
theorem foreign_iff {c : Channel} :
    e.Foreign own c ↔ ∃ scan, e.scanner own = .ok scan ∧ scan c = .ok none := by
  simp only [Foreign, Channel.scanWith, scanner, Attempt.bind_eq_ok_iff, Box.ofMaterial_eq_ok_iff,
    Attempt.pure_eq_ok_iff]
  constructor
  · rintro ⟨box, ⟨relay, key, hrelay, hkey, hbox⟩, nonce, hnonce, hscan⟩
    refine ⟨_, ⟨nonce, hnonce, relay, hrelay, key, hkey, rfl⟩, ?_⟩
    exact Attempt.bind_eq_ok_iff.mpr ⟨box, hbox, hscan⟩
  · rintro ⟨scan, ⟨nonce, hnonce, relay, hrelay, key, hkey, rfl⟩, hscan⟩
    obtain ⟨box, hbox, hscan⟩ := Attempt.bind_eq_ok_iff.mp hscan
    exact ⟨box, ⟨relay, key, hrelay, hkey, hbox⟩, nonce, hnonce, hscan⟩

/-- The search that the reader makes passes over foreign channels. -/
theorem scan_of_foreign {scan : Channel → Except BoxFault (Option Discovery)}
    (hscan : e.scanner own = .ok scan) (c : Channel)
    (hc : decide (¬e.Foreign own c) = false) : scan c = .ok none := by
  obtain ⟨scan', hscan', hc⟩ := foreign_iff.mp (by simpa using hc)
  cases hscan.symm.trans hscan'
  exact hc

/-- The search for the first channel does not see foreign channels. -/
theorem openWith_withoutForeign (e : Envelope) (own : Material) :
    (e.withoutForeign own).openWith own = e.openWith own := by
  rw [openWith, openWith, show (e.withoutForeign own).scanner own = e.scanner own from rfl]
  cases hscan : e.scanner own with
  | error fault => rfl
  | ok scan => exact firstOpen_filter fun c _ => scan_of_foreign hscan c

/-- The search for all channels does not see foreign channels. -/
theorem decryptWith_withoutForeign (e : Envelope) (own : Material) :
    (e.withoutForeign own).decryptWith own = e.decryptWith own := by
  rw [decryptWith, decryptWith, show (e.withoutForeign own).scanner own = e.scanner own from rfl]
  cases hscan : e.scanner own with
  | error fault => rfl
  | ok scan =>
      have hall : allOpen scan (e.withoutForeign own).channels = allOpen scan e.channels :=
        allOpen_filter fun c _ => scan_of_foreign hscan c
      rw [Attempt.ok_bind, Attempt.ok_bind, hall]
      rfl

end Reader

end Envelope

namespace Correspondence

/-- A reading does not see foreign channels. -/
theorem receive_withoutForeign (origin : Bytes) (e : Envelope) (payload : Bytes)
    (own : Material) :
    receive origin (e.withoutForeign own) payload own = receive origin e payload own := by
  rw [receive, receive]
  cases hown : own.asSecretKey with
  | error fault => rfl
  | ok key =>
      -- The search is made with the key and not with the material that it was taken from.
      have hopen : (e.withoutForeign own).openWith (.secretKey key) =
          e.openWith (.secretKey key) := by
        calc
          (e.withoutForeign own).openWith (.secretKey key) = (e.withoutForeign own).openWith own :=
            (Envelope.openWith_of_asSecretKey hown).symm
          _ = e.openWith own := Envelope.openWith_withoutForeign e own
          _ = e.openWith (.secretKey key) := Envelope.openWith_of_asSecretKey hown
      show ((e.withoutForeign own).openWith (.secretKey key)).mapError ReadFault.box >>= _ = _
      rw [hopen]
      rfl

/-- Two envelopes that a reader cannot tell apart: both searches and every reading give the
same. -/
structure ReadAlike (e e' : Envelope) (own : Material) : Prop where
  openWith : e.openWith own = e'.openWith own
  decryptWith : e.decryptWith own = e'.decryptWith own
  receive : ∀ origin payload, receive origin e payload own = receive origin e' payload own

/-- Envelopes that differ in foreign channels only are read alike. -/
theorem readAlike_of_withoutForeign {e e' : Envelope} {own : Material}
    (h : e.withoutForeign own = e'.withoutForeign own) : ReadAlike e e' own where
  openWith := by
    rw [← Envelope.openWith_withoutForeign e, h, Envelope.openWith_withoutForeign]
  decryptWith := by
    rw [← Envelope.decryptWith_withoutForeign e, h, Envelope.decryptWith_withoutForeign]
  receive := by
    intro origin payload
    rw [← receive_withoutForeign origin e, h, receive_withoutForeign]

/-- A foreign channel can stand anywhere. -/
theorem withoutForeign_insert {e : Envelope} {own : Material} {c : Channel}
    (hc : e.Foreign own c) (before after : List Channel) :
    ({ e with channels := before ++ c :: after } : Envelope).withoutForeign own =
      ({ e with channels := before ++ after } : Envelope).withoutForeign own := by
  have hfilter : (before ++ c :: after).filter (fun c => ¬e.Foreign own c) =
      (before ++ after).filter fun c => ¬e.Foreign own c := by
    simp [List.filter_append, hc]
  exact congrArg (fun channels => { e with channels := channels }) hfilter

/-- The two searches of an envelope agree, whether it is well formed or not, and foreign channels
do not matter. A foreign channel can be put at any place or taken from it, and all of them can be
replaced by others that are foreign: what the reader finds and reads stays the same. -/
theorem searches_agree_and_foreign_channels_do_not_matter (e : Envelope) (own : Material) :
    e.SearchesAgree own ∧
    (∀ before c after, e.channels = before ++ after → e.Foreign own c →
      ReadAlike { e with channels := before ++ c :: after } e own) ∧
    (∀ before c after, e.channels = before ++ c :: after → e.Foreign own c →
      ReadAlike { e with channels := before ++ after } e own) ∧
    ∀ e' : Envelope, e'.withoutForeign own = e.withoutForeign own → ReadAlike e' e own := by
  refine ⟨Envelope.searchesAgree e own, ?_, ?_, ?_⟩
  · intro before c after hchannels hc
    apply readAlike_of_withoutForeign
    rw [withoutForeign_insert hc, ← hchannels]
  · intro before c after hchannels hc
    apply readAlike_of_withoutForeign
    rw [← withoutForeign_insert hc, ← hchannels]
  · intro e' h
    exact readAlike_of_withoutForeign h

/-- The channels of the recipient are foreign to the sender of a note, and so is a channel that
holds nothing. -/
theorem foreign_of_note : ∀ d, draftNoteTwice = .ok d →
    d.1.channels.length = 3 ∧ (∀ c ∈ d.1.channels.drop 1, d.1.Foreign (.secretKey noteSender) c) ∧
      d.1.Foreign (.secretKey noteSender) ⟨[], []⟩ ∧
      (d.1.decryptWith (.secretKey noteSender)).toOption.map (·.channels.length) = some 1 := by
  decide +kernel

/-- The sender of a note reads it alike after a channel of the recipient is copied to the front,
removed, or emptied. -/
theorem sender_reads_note_alike : ∃ e secretNonce first second third d,
    draftNoteTwice = .ok (e, secretNonce) ∧ e.channels = [first, second, third] ∧
    e.openWith (.secretKey noteSender) = .ok (some d) ∧
    ReadAlike { e with channels := [second, first, second, third] } e (.secretKey noteSender) ∧
    ReadAlike { e with channels := [first, third] } e (.secretKey noteSender) ∧
    ReadAlike { e with channels := [first, ⟨[], []⟩, third] } e (.secretKey noteSender) := by
  obtain ⟨⟨e, secretNonce⟩, h⟩ := exists_draftNoteTwice
  obtain ⟨hlength, hforeign, hempty, hopened⟩ := foreign_of_note _ h
  obtain ⟨first, second, third, hchannels⟩ := List.length_eq_three.mp hlength
  have hchannels : e.channels = [first, second, third] := hchannels
  have hsecond : e.Foreign (.secretKey noteSender) second :=
    hforeign second (by simp [hchannels])
  obtain ⟨hagree, hinsert, hremove, hreplace⟩ :=
    searches_agree_and_foreign_channels_do_not_matter e (.secretKey noteSender)
  obtain ⟨plain, hdecrypt, hone⟩ := Option.map_eq_some_iff.mp hopened
  obtain ⟨c, hc⟩ := List.length_eq_one_iff.mp hone
  have hplain := Attempt.eq_ok_of_toOption_eq_some hdecrypt
  obtain ⟨d, hopen, -, -⟩ := hagree.opened plain c [] hplain hc
  refine ⟨e, secretNonce, first, second, third, d, h, hchannels, hopen, ?_, ?_, ?_⟩
  · have hfront := hinsert [] second e.channels rfl hsecond
    rw [List.nil_append, hchannels] at hfront
    exact hfront
  · exact hremove [first] second [third] hchannels hsecond
  · apply hreplace
    -- Without the foreign channel in the middle the two envelopes are one.
    have hemptied := withoutForeign_insert hempty [first] [third]
    have hremoved := withoutForeign_insert hsecond [first] [third]
    rw [List.singleton_append, List.singleton_append] at hemptied hremoved
    rw [hemptied, ← hremoved, ← hchannels]

end Correspondence
end SealedPost
