import SealedPost.Proofs.Wire.Envelope

/-!
# Records read back

The compact text of a record is read by two readers: one takes stored bytes, the other a document
from anywhere, whose value is checked afterwards. Both make the same record of it again, so no
two records have one text. All that is used of a record is that its document is a plain object
within the limit on depth, and that its check accepts the document.
-/

namespace SealedPost

open Wire

namespace Wire

/-- The compact text of every record of a kind can be encoded and reads back: as a stored text, and
as a document, in text or in bytes, whose value is checked wherever it is from. -/
structure Faithful {α : Type} (written : α → Json) (check : Source → Json → Checked α) : Prop where
  writable (a : α) : Json.writeEncodable (written a) = .ok (Json.writeCompact (written a))
  stored (a : α) : readStoredText check (Json.writeCompact (written a)) = .ok a
  document (source : Source) (a : α) :
    ∃ v, Json.readText .lenient (Json.writeCompact (written a)) = .ok v ∧
      Json.readDocument (Utf8.encode (Json.writeCompact (written a))) = .ok v ∧
      check source v = .ok a
  injective : Function.Injective fun a => Json.writeCompact (written a)

/-- Records whose documents are plain objects read back if their checks accept the documents. -/
theorem faithful_of_plain {α : Type} {written : α → Json} {check : Source → Json → Checked α}
    {depth : Nat} (hdepth : depth ≤ 200)
    (hobject : ∀ a, ∃ m members, written a = .obj (m :: members))
    (hplain : ∀ a, Json.Plain depth (written a))
    (hcheck : ∀ source a, check source (written a) = .ok a) : Faithful written check := by
  have hstored (a : α) : readStoredText check (Json.writeCompact (written a)) = .ok a := by
    have hencodable := Json.isEncodable_write Json.Style.legible_compact (hplain a)
    have hbytes : Utf8.encode? (Json.writeCompact (written a)) =
        some (Utf8.encode (Json.writeCompact (written a))) :=
      if_pos hencodable
    rw [readStoredText, hbytes]
    simp only [readStored, Json.readStored?_writeCompact (hplain a) hdepth]
    exact hcheck .stored a
  have hdocument (source : Source) (a : α) :
      ∃ v, Json.readText .lenient (Json.writeCompact (written a)) = .ok v ∧
        Json.readDocument (Utf8.encode (Json.writeCompact (written a))) = .ok v ∧
        check source v = .ok a := by
    obtain ⟨m, members, hwritten⟩ := hobject a
    have hv : Json.Plain depth (.obj (m :: members)) := hwritten ▸ hplain a
    have hread := Json.readText_write Json.Style.legible_compact hv (List.forall_mem_nil _)
    rw [List.append_nil] at hread
    refine ⟨written a, ?_, ?_, hcheck source a⟩
    · exact hwritten ▸ hread
    · exact hwritten ▸ Json.readDocument_writeCompact hv
  have hinjective : Function.Injective fun a => Json.writeCompact (written a) := by
    intro a b hab
    have hread : (.ok a : Checked α) = .ok b := calc
      .ok a = readStoredText check (Json.writeCompact (written a)) := (hstored a).symm
      _ = readStoredText check (Json.writeCompact (written b)) := congrArg _ hab
      _ = .ok b := hstored b
    exact Except.ok.inj hread
  exact ⟨fun a => Json.writeEncodable_of_plain (hplain a), hstored, hdocument, hinjective⟩

theorem pair_blobJson (source : Source) (a b : Bytes) :
    pair source blob blob (.arr [blobJson a, blobJson b]) = .ok (a, b) := by
  simp only [pair, blob_blobJson, Checked.under_ok, Checked.both_ok]

end Wire

namespace Posting

theorem ofJson_toJson (source : Source) (p : Posting) : ofJson source p.toJson = .ok p := by
  let members : List (Text × Json) :=
    [("metadata", p.envelope.toJson), ("message", blobJson p.message)]
  have henvelope : required "metadata" (Envelope.ofJson source) members = .ok p.envelope :=
    required_of_member? (by simp [members, Json.member?]) (p.envelope.ofJson_toJson source)
  have hmessage : required "message" blob members = .ok p.message :=
    required_of_member? (by simp [members, Json.member?, Text.ofString]) (blob_blobJson p.message)
  rw [ofJson, show p.toJson = .obj members from rfl, record, henvelope, hmessage]
  rfl

theorem plain_toJson (depth : Nat) (p : Posting) : Json.Plain (depth + 5) p.toJson :=
  .of_forall (by simp [Text.ofString])
    ⟨⟨rfl, p.envelope.plain_toJson depth⟩, rfl, plain_blobJson (depth + 4) p.message⟩

end Posting

namespace Opened

theorem ofJson_toJson (source : Source) (o : Opened) : ofJson source o.toJson = .ok o := by
  have hlist : list source blob (.arr (o.participants.map blobJson)) = .ok o.participants :=
    Checked.each_map blob_blobJson 0 o.participants
  let members : List (Text × Json) :=
    [("secret_nonce", blobJson o.secretNonce),
      ("participants", .arr (o.participants.map blobJson))]
  have hnonce : required "secret_nonce" blob members = .ok o.secretNonce :=
    required_of_member? (by simp [members, Json.member?]) (blob_blobJson o.secretNonce)
  have hparticipants : required "participants" (list source blob) members = .ok o.participants :=
    required_of_member? (by simp [members, Json.member?, Text.ofString]) hlist
  rw [ofJson, show o.toJson = .obj members from rfl, record, hnonce, hparticipants]
  rfl

theorem plain_toJson (depth : Nat) (o : Opened) : Json.Plain (depth + 2) o.toJson :=
  .of_forall (by simp [Text.ofString])
    ⟨⟨rfl, plain_blobJson (depth + 1) o.secretNonce⟩,
      rfl, .map (plain_blobJson depth) o.participants⟩

end Opened

namespace Outgoing

theorem list_messagesJson (source : Source) (o : Outgoing) :
    list source (pair source blob blob) o.messagesJson = .ok o.messages :=
  Checked.each_map (fun m : Bytes × Bytes => pair_blobJson source m.1 m.2) 0 o.messages

theorem plain_messagesJson (depth : Nat) (o : Outgoing) :
    Json.Plain (depth + 2) o.messagesJson := by
  refine .map (fun m : Bytes × Bytes => ?_) o.messages
  exact .pair (plain_blobJson depth m.1) (plain_blobJson depth m.2)

theorem ofJson_toJson (source : Source) (o : Outgoing) : ofJson source o.toJson = .ok o := by
  let members : List (Text × Json) :=
    [("metadata", o.envelope.toJson), ("secret_nonce", blobJson o.secretNonce),
      ("messages", o.messagesJson)]
  have henvelope : required "metadata" (Envelope.ofJson source) members = .ok o.envelope :=
    required_of_member? (by simp [members, Json.member?]) (o.envelope.ofJson_toJson source)
  have hnonce : required "secret_nonce" blob members = .ok o.secretNonce :=
    required_of_member? (by simp [members, Json.member?, Text.ofString])
      (blob_blobJson o.secretNonce)
  have hmessages : required "messages" (list source (pair source blob blob)) members =
      .ok o.messages :=
    required_of_member? (by simp [members, Json.member?, Text.ofString])
      (o.list_messagesJson source)
  rw [ofJson, show o.toJson = .obj members from rfl, record, henvelope, hnonce, hmessages]
  rfl

theorem plain_toJson (depth : Nat) (o : Outgoing) : Json.Plain (depth + 5) o.toJson :=
  .of_forall (by simp [Text.ofString])
    ⟨⟨rfl, o.envelope.plain_toJson depth⟩, ⟨rfl, plain_blobJson (depth + 4) o.secretNonce⟩,
      rfl, o.plain_messagesJson (depth + 2)⟩

end Outgoing

namespace Received

theorem ofJson_toJson (source : Source) (r : Received) : ofJson source r.toJson = .ok r := by
  have hlist : list source blob (.arr (r.recipients.map blobJson)) = .ok r.recipients :=
    Checked.each_map blob_blobJson 0 r.recipients
  let members : List (Text × Json) :=
    [("sender", blobJson r.sender), ("recipients", .arr (r.recipients.map blobJson)),
      ("message", r.message.toJson)]
  have hsender : required "sender" blob members = .ok r.sender :=
    required_of_member? (by simp [members, Json.member?]) (blob_blobJson r.sender)
  have hrecipients : required "recipients" (list source blob) members = .ok r.recipients :=
    required_of_member? (by simp [members, Json.member?, Text.ofString]) hlist
  have hmessage : required "message" (Message.ofJson source) members = .ok r.message :=
    required_of_member? (by simp [members, Json.member?, Text.ofString])
      (r.message.ofJson_toJson source)
  rw [ofJson, show r.toJson = .obj members from rfl, record, hsender, hrecipients, hmessage]
  rfl

theorem plain_toJson (depth : Nat) (r : Received) : Json.Plain (depth + 4) r.toJson :=
  .of_forall (by simp [Text.ofString])
    ⟨⟨rfl, plain_blobJson (depth + 3) r.sender⟩,
      ⟨rfl, .map (plain_blobJson (depth + 2)) r.recipients⟩,
      rfl, r.message.plain_toJson depth⟩

end Received

namespace Wire

/-- Every record that is stored, sent or printed in this form reads back from its compact text, with
either reader, and different records have different texts. -/
theorem records_read_back :
    Faithful Message.toJson Message.ofJson ∧ Faithful Channel.toJson Channel.ofJson ∧
    Faithful Envelope.toJson Envelope.ofJson ∧ Faithful Posting.toJson Posting.ofJson ∧
    Faithful Opened.toJson Opened.ofJson ∧ Faithful Outgoing.toJson Outgoing.ofJson ∧
    Faithful Received.toJson Received.ofJson ∧
    ∀ m : Message, Message.ofBytes m.toBytes = .ok m :=
  ⟨faithful_of_plain (by decide) (fun _ => ⟨_, _, rfl⟩) (Message.plain_toJson 0)
      Message.ofJson_toJson,
    faithful_of_plain (by decide) (fun _ => ⟨_, _, rfl⟩) (Channel.plain_toJson 0)
      Channel.ofJson_toJson,
    faithful_of_plain (by decide) (fun _ => ⟨_, _, rfl⟩) (Envelope.plain_toJson 0)
      Envelope.ofJson_toJson,
    faithful_of_plain (by decide) (fun _ => ⟨_, _, rfl⟩) (Posting.plain_toJson 0)
      Posting.ofJson_toJson,
    faithful_of_plain (by decide) (fun _ => ⟨_, _, rfl⟩) (Opened.plain_toJson 0)
      Opened.ofJson_toJson,
    faithful_of_plain (by decide) (fun _ => ⟨_, _, rfl⟩) (Outgoing.plain_toJson 0)
      Outgoing.ofJson_toJson,
    faithful_of_plain (by decide) (fun _ => ⟨_, _, rfl⟩) (Received.plain_toJson 0)
      Received.ofJson_toJson,
    Message.ofBytes_toBytes⟩

end Wire
end SealedPost
