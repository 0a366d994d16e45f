import SealedPost.Command.Outcome
import SealedPost.Proofs.Correspondence.RoundTrip
import SealedPost.Proofs.Wire.Records

/-!
# What one command prints the other reads

The command that composes prints a parcel: the envelope and, for each recipient, a pair of key and
payload. The command that reads makes the parcel of the document again, chooses the pair for its
own key, or the first one, and prints what it has read. So every party gets the texts that were
given, whoever puts the pairs into whatever order.
-/

namespace SealedPost.Command

open Wire

/-- An entry as the value of an option: the key, an equals sign and the value. -/
def entryArgument (key value : Text) : Text := key ++ .char '=' :: value

/-- The first equals sign ends the key, so the value may hold more of them. -/
theorem entryValue_entryArgument {key value : Text} (hsign : CodePoint.char '=' ∉ key)
    (hkey : key.isEncodable = true) (hvalue : value.isEncodable = true) :
    entryValue (entryArgument key value) = .ok (Utf8.encode key, Utf8.encode value) := by
  have hcut := Text.cutAt_append_cons value hsign
  simp only [entryValue, entryArgument, hcut, Utf8.encode?, hkey, hvalue, if_true]

/-- A line break is a blank. -/
theorem blank_lineBreak : Json.Blank [.char '\n'] := by
  intro c hc
  exact ⟨'\n', List.mem_singleton.mp hc, rfl⟩

/-- The document of a parcel. -/
def Parcel.toJson (p : Parcel) : Json :=
  .obj [("metadata", p.envelope.toJson),
    ("messages", .arr (p.messages.map fun m => .arr [blobJson m.1, blobJson m.2]))]

namespace Parcel

theorem blob_blobJson (bytes : Bytes) : blob (blobJson bytes) = .ok bytes := by
  simp only [blob, Wire.blobJson, Base64.decode_encode]
  rfl

theorem pair_blobJson (m : Bytes × Bytes) :
    pair (.arr [blobJson m.1, blobJson m.2]) = .ok m := by
  simp only [pair, Json.parts?, blob_blobJson, Attempt.ok_bind]
  rfl

/-- A parcel is read from its document. -/
theorem ofJson_toJson (p : Parcel) : ofJson p.toJson = .ok p := by
  have hmetadata : member "metadata" p.toJson = .ok p.envelope.toJson := by
    simp [member, toJson, Json.member?]
  have hmessages : member "messages" p.toJson =
      .ok (.arr (p.messages.map fun m => .arr [blobJson m.1, blobJson m.2])) := by
    simp [member, toJson, Json.member?, Text.ofString]
  have henvelope : (Envelope.ofJson .value p.envelope.toJson).mapError ParcelFault.badEnvelope =
      .ok p.envelope :=
    Attempt.mapError_eq_ok_iff.mpr (p.envelope.ofJson_toJson .value)
  have hpairs : pairs (.arr (p.messages.map fun m => .arr [blobJson m.1, blobJson m.2])) =
      .ok p.messages := by
    rw [pairs, Json.parts?]
    refine Attempt.mapM_eq_ok_iff.mpr (List.forall₂_map_left_iff.mpr ?_)
    exact List.forall₂_same.mpr fun m _ => pair_blobJson m
  simp only [ofJson, hmetadata, hmessages, henvelope, hpairs, Attempt.ok_bind]
  rfl

theorem plain_toJson (p : Parcel) : Json.Plain depth p.toJson :=
  .of_forall (by simp [Text.ofString])
    ⟨⟨rfl, p.envelope.plain_toJson 0⟩,
      rfl, Outgoing.plain_messagesJson 2 ⟨p.envelope, [], p.messages⟩⟩

/-- Printed in any legible style, a parcel is in the file that holds what is printed. -/
theorem readDocumentIn_line (room : Room) {s : Json.Style} (hs : s.Legible) (p : Parcel) :
    Json.readDocumentIn room.dialect (Utf8.encode (line s p.toJson)) = .ok p.toJson :=
  Json.readDocumentIn_write hs p.plain_toJson (Json.Dialect.admits_of_le rfl room.depth_le)
    blank_lineBreak

/-- A file holds a parcel, for a reader with some room, if its document is that of the parcel, the
pairs in whatever order. -/
def Held (room : Room) (p : Parcel) (content : Bytes) : Prop :=
  ∃ messages, messages.Perm p.messages ∧
    Json.readDocumentIn room.dialect content = .ok (toJson ⟨p.envelope, messages⟩)

/-- A parcel may be printed anew with its pairs in another order. -/
theorem held_of_perm (room : Room) (p : Parcel) {messages : List (Bytes × Bytes)}
    (hperm : messages.Perm p.messages) {s : Json.Style} (hs : s.Legible) :
    p.Held room (Utf8.encode (line s (toJson ⟨p.envelope, messages⟩))) :=
  ⟨messages, hperm, readDocumentIn_line room hs _⟩

/-- The payload that is chosen is that of a pair, and of one for the own key if there is one. -/
theorem exists_of_payloadFor (key : Bytes) (first : Bytes × Bytes) (rest : List (Bytes × Bytes)) :
    ∃ m ∈ first :: rest, payloadFor key first rest = m.2 ∧
      (key ∈ (first :: rest).map Prod.fst → m.1 = key) := by
  unfold payloadFor
  cases hfound : (first :: rest).lookup key with
  | some payload =>
      obtain ⟨before, after, heq, -⟩ := List.lookup_eq_some_iff.mp hfound
      exact ⟨(key, payload), heq ▸ List.mem_append_right _ List.mem_cons_self, rfl, fun _ => rfl⟩
  | none =>
      refine ⟨first, List.mem_cons_self, rfl, fun hkey => ?_⟩
      obtain ⟨m, hm, rfl⟩ := List.mem_map.mp hkey
      have hne := List.lookup_eq_none_iff.mp hfound m hm
      simp at hne

end Parcel

section Reader

variable {c : Composition} {own reader : SecretKey}

/-- The sender and every recipient read the parcel of a composition, whatever the order of its
pairs: the pair that is chosen is the reader's own, or the reader is the sender, who reads every
pair. -/
theorem readParcel_of_planned (hplanned : c.Planned own) (hsound : c.Sound own reader)
    (hrecipients : c.recipients ≠ []) (hreader : reader = own ∨ reader.publicKey ∈ c.recipients)
    {messages : List (Bytes × Bytes)} (hperm : messages.Perm c.outgoing.messages) (input : Text) :
    readParcel ⟨c.origin, reader.bytes, input⟩ ⟨c.envelope, messages⟩ =
      .ok (line .spaced (receivedShown
        ⟨c.sender.bytes, c.recipients.map PublicKey.bytes, c.message⟩)) := by
  cases messages with
  | nil =>
      have hnone := hplanned.map_fst_messages
      rw [List.nil_perm.mp hperm, List.map_nil, eq_comm, List.map_eq_nil_iff] at hnone
      exact absurd hnone hrecipients
  | cons first rest =>
      obtain ⟨m, hm, hpayload, hown⟩ :=
        Parcel.exists_of_payloadFor reader.publicKey.bytes first rest
      obtain ⟨i, recipient, hi, hrecipient, hbytes⟩ :=
        hplanned.exists_position_of_mem (hperm.mem_iff.mp hm)
      have hfits : c.recipients[i]? = some reader.publicKey ∨ reader = own := by
        rcases hreader with hself | hmem
        · exact .inr hself
        · have hnamed : reader.publicKey.bytes ∈ (first :: rest).map Prod.fst := by
            rw [(hperm.map Prod.fst).mem_iff, hplanned.map_fst_messages]
            exact List.mem_map_of_mem hmem
          exact .inl (hrecipient.trans
            (congrArg some (PublicKey.ext (hbytes.trans (hown hnamed)))))
      have hready : (Material.secretKey reader).asSecretKey = .ok reader := rfl
      have hread := Correspondence.receive_of_planned hplanned hsound hready hi hfits
      have hkey : ((Material.bytes reader.bytes).asSecretKey.mapError
          fun refusal => Failure.read (.box refusal)) = .ok reader :=
        Attempt.mapError_eq_ok_iff.mpr (Material.asSecretKey_eq_ok_iff.mpr rfl)
      simp only [readParcel, hkey, Attempt.ok_bind, hpayload, hread]

end Reader

/-- What a party is shown of a message: the sender, the recipients in order, and the entries with
the texts that were given. -/
def readingShown (sender : Bytes) (recipients : List Bytes) (given : List (Text × Text))
    (kind : Kind) : Json :=
  .obj [("sender", blobJson sender), ("recipients", .arr (recipients.map blobJson)),
    ("entries", .arr (given.map fun e =>
      .obj [("key", .str e.1), ("value", .str e.2), ("kind", .str kind.name)]))]

/-- Texts that can be given as an entry: both have an encoding, and the key has no equals sign. -/
structure Givable (e : Text × Text) : Prop where
  sign : CodePoint.char '=' ∉ e.1
  key : e.1.isEncodable = true
  value : e.2.isEncodable = true

/-- The entry that is made of given texts. -/
def encodedEntry (e : Text × Text) : Bytes × Bytes := (Utf8.encode e.1, Utf8.encode e.2)

theorem mapM_entryValue {given : List (Text × Text)} (h : ∀ e ∈ given, Givable e) :
    (given.map fun e => entryArgument e.1 e.2).mapM entryValue =
      .ok (given.map encodedEntry) := by
  refine Attempt.mapM_eq_ok_iff.mpr ?_
  rw [List.forall₂_map_left_iff, List.forall₂_map_right_iff]
  refine List.forall₂_same.mpr fun e he => ?_
  exact entryValue_entryArgument (h e he).sign (h e he).key (h e he).value

/-- A message of encoded texts is shown with these texts. -/
theorem receivedShown_eq {given : List (Text × Text)} (h : ∀ e ∈ given, Givable e)
    (sender : Bytes) (recipients : List Bytes) (o : ComposeOptions)
    (hentries : o.entries = given.map encodedEntry) :
    receivedShown ⟨sender, recipients, o.message⟩ =
      readingShown sender recipients given o.kind := by
  have hshown : o.message.entries.map entryShown = given.map fun e =>
      .obj [("key", .str e.1), ("value", .str e.2), ("kind", .str o.kind.name)] := by
    rw [ComposeOptions.message, hentries, List.map_map, List.map_map]
    refine List.map_congr_left fun e he => ?_
    simp only [Function.comp_apply, encodedEntry, entryShown,
      Utf8.decodeReplacing_encode (h e he).key, Utf8.decodeReplacing_encode (h e he).value]
  rw [receivedShown, hshown]
  rfl

/-- What a party is shown reads as what it says, escapes included. -/
theorem readText_readingShown {given : List (Text × Text)} (h : ∀ e ∈ given, Givable e)
    (sender : Bytes) (recipients : List Bytes) (kind : Kind) :
    Json.readText .lenient (line .spaced (readingShown sender recipients given kind)) =
      .ok (readingShown sender recipients given kind) := by
  have hkind : Json.Plain 1 (.str kind.name) := .str (by cases kind <;> rfl)
  have hentries : Json.Plain 3 (.arr (given.map fun e =>
      .obj [("key", .str e.1), ("value", .str e.2), ("kind", .str kind.name)])) := by
    refine .arr fun v hv => ?_
    obtain ⟨e, he, rfl⟩ := List.mem_map.mp hv
    exact .of_forall (by simp [Text.ofString])
      ⟨⟨rfl, .str (h e he).key⟩, ⟨rfl, .str (h e he).value⟩, rfl, hkind⟩
  have hplain : Json.Plain 4 (readingShown sender recipients given kind) :=
    .of_forall (by simp [Text.ofString])
      ⟨⟨rfl, plain_blobJson 3 sender⟩, ⟨rfl, .map (plain_blobJson 2) recipients⟩,
        rfl, hentries⟩
  exact Json.readText_write Json.Style.legible_spaced hplain blank_lineBreak

/-- What is printed of a composed message is the parcel of a planned composition for the keys
that were given. -/
theorem compose_eq_ok {o : ComposeOptions} {entropy : Entropy} {printed : Text}
    (h : compose o entropy = .ok printed) : ∃ key c,
      Correspondence.composition o.origin (.bytes o.secretKey) (o.recipients.map Material.bytes)
        o.message none entropy = .ok c ∧
      o.secretKey = SecretKey.bytes key ∧ c.Planned key ∧
      o.recipients = c.recipients.map PublicKey.bytes ∧ c.origin = o.origin ∧
      c.message = o.message ∧
      printed = line .compact (Parcel.toJson ⟨c.envelope, c.outgoing.messages⟩) := by
  unfold compose at h
  split at h
  · cases h
  · rename_i outgoing houtgoing
    cases h
    obtain ⟨c, hc, rfl⟩ := Correspondence.compose_eq_ok_iff.mp houtgoing
    obtain ⟨key, hkey, hplanned, hkeys, horigin, hmessage⟩ :=
      Correspondence.planned_of_composition hc
    have hrecipients : o.recipients = c.recipients.map PublicKey.bytes := by
      rw [Attempt.mapM_eq_ok_iff, List.forall₂_map_left_iff] at hkeys
      have heq := hkeys.imp fun _ _ => Material.asPublicKey_eq_ok_iff.mp
      rw [← List.forall₂_map_right_iff, List.forall₂_eq_eq_eq] at heq
      exact heq
    exact ⟨key, c, hc, Material.asSecretKey_eq_ok_iff.mp hkey, hplanned, hrecipients, horigin,
      hmessage, rfl⟩

/-- The sender and every recipient read a file that holds the parcel of a composition. -/
theorem read_of_planned {c : Composition} {own reader : SecretKey} (hplanned : c.Planned own)
    (hsound : c.Sound own reader) (hrecipients : c.recipients ≠ [])
    (hreader : reader = own ∨ reader.publicKey ∈ c.recipients) {content : Bytes}
    {room : Parcel.Room} (hheld : Parcel.Held room ⟨c.envelope, c.outgoing.messages⟩ content)
    (input : Text) :
    read room ⟨c.origin, reader.bytes, input⟩ content = .ok (line .spaced (receivedShown
      ⟨c.sender.bytes, c.recipients.map PublicKey.bytes, c.message⟩)) := by
  obtain ⟨messages, hperm, hcontent⟩ := hheld
  have hparcel : Parcel.ofBytes room content = .ok ⟨c.envelope, messages⟩ := by
    have hdocument : (Json.readDocumentIn room.dialect content).mapError ParcelFault.unreadable =
        .ok (Parcel.toJson ⟨c.envelope, messages⟩) :=
      Attempt.mapError_eq_ok_iff.mpr hcontent
    rw [Parcel.ofBytes, hdocument, Attempt.ok_bind, Parcel.ofJson_toJson]
  rw [read, hparcel]
  exact readParcel_of_planned hplanned hsound hrecipients hreader hperm input

/-- What is printed of a message is read by its sender and by every recipient, from every file that
holds the parcel: they are shown the sender, the recipients in the order in which they were given,
and the entries with exactly the texts that were given, and all of that can be read off what they
are shown. Entries are given as arguments, and every one of them is accepted. -/
theorem parties_read_what_is_printed {recipients : List Bytes} {given : List (Text × Text)}
    (hrecipients : recipients ≠ []) (hgiven : ∀ e ∈ given, Givable e) (origin secretKey : Bytes)
    (kind : Kind) (room : Parcel.Room) :
    ∃ entries, (given.map fun e => entryArgument e.1 e.2).mapM entryValue = .ok entries ∧
      ∀ (entropy : Entropy) (printed : Text),
        compose ⟨origin, secretKey, recipients, entries, kind⟩ entropy = .ok printed →
        ∃ key c p, secretKey = SecretKey.bytes key ∧
          Correspondence.composition origin (.bytes secretKey) (recipients.map Material.bytes)
            ⟨entries.map fun e => ⟨e.1, e.2, kind⟩⟩ none entropy = .ok c ∧
          printed = line .compact (Parcel.toJson p) ∧
          (∀ messages, messages.Perm p.messages → ∀ s : Json.Style, s.Legible →
            p.Held room (Utf8.encode (line s (Parcel.toJson ⟨p.envelope, messages⟩)))) ∧
          (∀ content, p.Held room content → ∀ reader : SecretKey,
            (reader = key ∨ reader.publicKey.bytes ∈ recipients) → c.Sound key reader →
            ∀ input, read room ⟨origin, reader.bytes, input⟩ content = .ok
              (line .spaced (readingShown key.publicKey.bytes recipients given kind))) ∧
          Json.readText .lenient
              (line .spaced (readingShown key.publicKey.bytes recipients given kind)) =
            .ok (readingShown key.publicKey.bytes recipients given kind) := by
  refine ⟨_, mapM_entryValue hgiven, fun entropy printed h => ?_⟩
  obtain ⟨key, c, hc, hkey, hplanned, hkeys, horigin, hmessage, hprinted⟩ := compose_eq_ok h
  dsimp only at hkey hkeys horigin
  refine ⟨key, c, _, hkey, hc, hprinted,
    fun messages hperm s hs => Parcel.held_of_perm room _ hperm hs,
    fun content hheld reader hreader hsound input => ?_, readText_readingShown hgiven _ _ _⟩
  have hsome : c.recipients ≠ [] := by
    rintro hnil
    rw [hnil, List.map_nil] at hkeys
    exact hrecipients hkeys
  have hparty : reader = key ∨ reader.publicKey ∈ c.recipients := by
    refine hreader.imp_right fun hmem => ?_
    rw [hkeys] at hmem
    obtain ⟨recipient, hrecipient, hbytes⟩ := List.mem_map.mp hmem
    exact PublicKey.ext hbytes ▸ hrecipient
  have hread := read_of_planned hplanned hsound hsome hparty hheld input
  rw [horigin, hplanned.sender, ← hkeys, hmessage, receivedShown_eq hgiven _ _ _ rfl] at hread
  exact hread

/-- The texts of the note, none of whose characters is printable. -/
def noteTexts : Text × Text := ([.char '\x01', .char '\x02'], [.char '\x03'])

section Note

open Correspondence

/-- The note as the command is told to compose it. -/
def noteOptions : ComposeOptions where
  origin := [4]
  secretKey := noteSender.bytes
  recipients := [noteRecipient.publicKey.bytes]
  entries := [encodedEntry noteTexts]
  kind := .text

/-- The composition of the command is that of the note. -/
theorem composition_noteOptions :
    composition noteOptions.origin (.bytes noteOptions.secretKey)
        (noteOptions.recipients.map Material.bytes) noteOptions.message none ⟨[]⟩ =
      composition [4] (.secretKey noteSender) [.publicKey noteRecipient.publicKey] note none
        ⟨[]⟩ := by
  have hmessage : noteOptions.message = note := by decide
  have hsender : (Material.bytes noteSender.bytes).asSecretKey =
      (Material.secretKey noteSender).asSecretKey :=
    Material.asSecretKey_eq_ok_iff.mpr rfl
  have hrecipients : [Material.bytes noteRecipient.publicKey.bytes].mapM Material.asPublicKey =
      [Material.publicKey noteRecipient.publicKey].mapM Material.asPublicKey := by
    simp only [List.mapM_cons, Material.asPublicKey_bytes]
    rfl
  rw [hmessage]
  exact composition_congr hsender hrecipients _ _ _ _

theorem exists_printed_note : ∃ printed, compose noteOptions ⟨[]⟩ = .ok printed := by
  obtain ⟨out, hout⟩ := exists_composed_note
  obtain ⟨c, hc, -⟩ := compose_eq_ok_iff.mp hout
  have hcomposed : Correspondence.compose noteOptions.origin (.bytes noteOptions.secretKey)
      (noteOptions.recipients.map Material.bytes) noteOptions.message none ⟨[]⟩ =
        .ok c.outgoing :=
    compose_eq_ok_iff.mpr ⟨c, composition_noteOptions.trans hc, rfl⟩
  refine ⟨line .compact c.outgoing.toPublicJson, ?_⟩
  rw [Command.compose, hcomposed]

/-- The least room that a reader may have, in which no fault inside of a document is reported. -/
def leastRoom : Parcel.Room := ⟨⟨Parcel.depth, 0, 0⟩, Nat.le_refl _⟩

/-- Both parties of the note read what is printed of it. -/
theorem both_parties_read_printed_note : ∃ printed, compose noteOptions ⟨[]⟩ = .ok printed ∧
    ∀ reader ∈ [noteSender, noteRecipient], ∀ input,
      read leastRoom ⟨[4], reader.bytes, input⟩ (Utf8.encode printed) = .ok (line .spaced
        (readingShown noteSender.publicKey.bytes [noteRecipient.publicKey.bytes] [noteTexts]
          .text)) := by
  have hgiven : ∀ e ∈ [noteTexts], Givable e :=
    List.forall_mem_singleton.mpr ⟨by decide, rfl, rfl⟩
  have hsome : [noteRecipient.publicKey.bytes] ≠ [] := List.cons_ne_nil _ _
  obtain ⟨entries, hentries, hall⟩ :=
    parties_read_what_is_printed hsome hgiven [4] noteSender.bytes .text leastRoom
  cases (mapM_entryValue hgiven).symm.trans hentries
  obtain ⟨printed, hprinted⟩ := exists_printed_note
  obtain ⟨key, c, p, hkey, hc, htext, hheld, hread, -⟩ := hall ⟨[]⟩ printed hprinted
  cases SecretKey.ext hkey
  obtain ⟨hrecipient, hsender⟩ := sound_of_note c (composition_noteOptions.symm.trans hc)
  have hfile : p.Held leastRoom (Utf8.encode printed) :=
    htext ▸ hheld p.messages (List.Perm.refl _) _ Json.Style.legible_compact
  refine ⟨printed, hprinted, fun reader hreader => ?_⟩
  rcases List.mem_pair.mp hreader with rfl | rfl
  · exact hread _ hfile _ (.inl rfl) hsender
  · exact hread _ hfile _ (.inr List.mem_cons_self) hrecipient

end Note
end SealedPost.Command
