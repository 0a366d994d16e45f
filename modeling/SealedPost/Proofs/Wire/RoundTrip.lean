import SealedPost.Proofs.Base64
import SealedPost.Proofs.Json.Documents
import SealedPost.Proofs.Text.Trimming
import SealedPost.Wire.Records

/-!
# Stored messages read back

A message is written as a document of strings, arrays and objects, so its bytes read as
that document, and the checks on the document give the message again: every key, value
and kind, in order.
-/

namespace SealedPost

theorem Base64.trim_encode (bytes : Bytes) : Text.trim (encode bytes) = encode bytes := by
  refine Text.trimBy_of_forall fun c hc => ?_
  rcases mem_encode hc with rfl | ⟨n, hn, rfl⟩
  · decide
  · exact (standardDigit_props hn).2.2

theorem Base64.isEncodable_encode (bytes : Bytes) : Text.isEncodable (encode bytes) = true := by
  refine List.all_eq_true.mpr fun c hc => ?_
  rcases mem_encode hc with rfl | ⟨n, -, rfl⟩ <;> rfl

namespace Wire

theorem blob_blobJson (bytes : Bytes) : blob (blobJson bytes) = .ok bytes := by
  simp only [blob, blobJson, Base64.trim_encode, Base64.decode_encode]

theorem kindName_name (k : Kind) : kindName (.str k.name) = .ok k := by
  have hencodable : k.name.isEncodable = true := by cases k <;> rfl
  rw [kindName, encodable, if_pos hencodable, kindText, Kind.ofName?_name]

theorem required_of_member? {α : Type} {name : Text} {check : Json → Checked α}
    {members : List (Text × Json)} {v : Json} {a : α} (hv : Json.member? name members = some v)
    (ha : check v = .ok a) : required name check members = .ok a := by
  rw [required, hv]
  exact congrArg (Checked.under _) ha

theorem defaulted_of_member? {α : Type} {name : Text} {default : α} {check : Json → Checked α}
    {members : List (Text × Json)} {v : Json} {a : α} (hv : Json.member? name members = some v)
    (ha : check v = .ok a) : defaulted name default check members = .ok a := by
  rw [defaulted, hv]
  exact congrArg (Checked.under _) ha

theorem plain_blobJson (depth : Nat) (bytes : Bytes) : Json.Plain depth (blobJson bytes) :=
  .str (Base64.isEncodable_encode bytes)

end Wire

open Wire

namespace Entry

theorem ofJson_toJson (source : Source) (e : Entry) : ofJson source e.toJson = .ok e := by
  have hkey : required "key" blob [("key", blobJson e.key), ("value", blobJson e.value),
      ("kind", .str e.kind.name)] = .ok e.key :=
    required_of_member? (by simp [Json.member?]) (blob_blobJson e.key)
  have hvalue : required "value" blob [("key", blobJson e.key), ("value", blobJson e.value),
      ("kind", .str e.kind.name)] = .ok e.value :=
    required_of_member? (by simp [Json.member?, Text.ofString]) (blob_blobJson e.value)
  have hkind : defaulted "kind" Kind.raw kindName [("key", blobJson e.key),
      ("value", blobJson e.value), ("kind", .str e.kind.name)] = .ok e.kind :=
    defaulted_of_member? (by simp [Json.member?, Text.ofString]) (kindName_name e.kind)
  simp only [ofJson, toJson, record, hkey, hvalue, hkind, Checked.both_ok]
  rfl

theorem plain_toJson (depth : Nat) (e : Entry) : Json.Plain (depth + 1) e.toJson := by
  have hkind : Json.Plain depth (.str e.kind.name) := .str (by cases e.kind <;> rfl)
  exact .of_forall (by simp [Text.ofString])
    ⟨⟨rfl, plain_blobJson depth e.key⟩, ⟨rfl, plain_blobJson depth e.value⟩, rfl, hkind⟩

end Entry

namespace Message

theorem ofJson_toJson (source : Source) (m : Message) : ofJson source m.toJson = .ok m := by
  have hlist : list source (Entry.ofJson source) (.arr (m.entries.map Entry.toJson)) =
      .ok m.entries :=
    Checked.each_map (Entry.ofJson_toJson source) 0 m.entries
  have hentries : defaulted "entries" [] (list source (Entry.ofJson source))
      [("entries", .arr (m.entries.map Entry.toJson))] = .ok m.entries :=
    defaulted_of_member? (by simp [Json.member?]) hlist
  simp only [ofJson, toJson, record, hentries]
  rfl

theorem plain_toJson (depth : Nat) (m : Message) : Json.Plain (depth + 3) m.toJson :=
  .of_forall (by simp) ⟨rfl, .map (Entry.plain_toJson depth) m.entries⟩

/-- The stored form of a message reads as the message. -/
theorem ofBytes_toBytes (m : Message) : ofBytes m.toBytes = .ok m := by
  rw [ofBytes, readStored, toBytes, Json.readStored?_writeCompact (plain_toJson 0 m) (by decide)]
  exact ofJson_toJson .stored m

end Message
end SealedPost
