import SealedPost.Proofs.Json.RoundTrip
import SealedPost.Proofs.Text.Utf8

/-!
# Documents in bytes

A reader of documents tells their encoding from the first bytes. If these are a bracket or a brace
and a byte other than zero, it is UTF-8. So a plain object is what its bytes read as, up to the
depth for which the reader has room.
-/

namespace SealedPost

/-- Bytes that start with a bracket or a brace and go on with another byte than zero are UTF-8
without a mark. -/
theorem Encoding.detect_of_bracket {a b : UInt8} (ha : a = 0x5B ∨ a = 0x7B) (hb : b ≠ 0)
    (rest : Bytes) : detect (a :: b :: rest) = (.utf8, 0) := by
  match rest with
  | [] =>
      have hpair : detect [a, b] = (if b = 0 then .utf16LE else .utf8, 0) := by
        rcases ha with rfl | rfl <;> rfl
      rw [hpair, if_neg hb]
  | [_] => rcases ha with rfl | rfl <;> rfl
  | c :: d :: rest =>
      have hfour : detect (a :: b :: c :: d :: rest) =
          if b = 0 then (if c = 0 ∧ d = 0 then .utf32LE else .utf16LE, 0) else (.utf8, 0) := by
        rcases ha with rfl | rfl <;> rfl
      rw [hfour, if_neg hb]

/-- A text whose bytes start so is read from its bytes. -/
theorem Encoding.decodeDocument_encode {t : Text} (ht : t.isEncodable = true) {a b : UInt8}
    {rest : Bytes} (hbytes : Utf8.encode t = a :: b :: rest) (ha : a = 0x5B ∨ a = 0x7B)
    (hb : b ≠ 0) : decodeDocument (Utf8.encode t) = .ok t := by
  have htext : Utf8.decode .pass (Utf8.encode t) = .ok t := Utf8.decode_encode .pass ht
  rw [hbytes] at htext ⊢
  simp only [decodeDocument, detect_of_bracket ha hb, decodeUtf8, List.drop_zero, htext]
  rfl

namespace Json

/-- The bytes of an object with members start with a brace and a quote. -/
theorem exists_encode_object (s : Style) (m : Text × Json) (members : List (Text × Json))
    (tail : Text) :
    ∃ rest, Utf8.encode (write s (.obj (m :: members)) ++ tail) = 0x7B :: 0x22 :: rest := by
  have hmembers : ∃ t, writeMembers s (m :: members) = .char '"' :: t := by
    obtain ⟨name, v⟩ := m
    cases members with
    | nil => exact ⟨_, rfl⟩
    | cons k rest => exact ⟨_, rfl⟩
  obtain ⟨t, ht⟩ := hmembers
  refine ⟨Utf8.encode (t ++ [.char '\x7d'] ++ tail), ?_⟩
  rw [write, ht]
  rfl

theorem readStored?_writeCompact {depth : Nat} {v : Json} (hv : Plain depth v)
    (hdepth : depth ≤ 200) : readStored? (Utf8.encode (writeCompact v)) = some v := by
  have htext : Utf8.decode .refuse (Utf8.encode (writeCompact v)) = .ok (writeCompact v) :=
    Utf8.decode_encode .refuse (isEncodable_write Style.legible_compact hv)
  have hread : read .strict (writeCompact v) = .ok v :=
    read_writeCompact hv (Dialect.admits_of_le rfl hdepth)
  rw [readStored?, htext]
  simp only [hread]
  rfl

/-- A plain object is what its bytes read as, in every dialect that has room for it, every legible
style and with blanks after it. -/
theorem readDocumentIn_write {d : Dialect} {s : Style} (hs : s.Legible) {depth : Nat}
    {m : Text × Json} {members : List (Text × Json)} (hv : Plain depth (.obj (m :: members)))
    (hd : d.Admits depth) {blanks : Text} (hblanks : Blank blanks) :
    readDocumentIn d (Utf8.encode (write s (.obj (m :: members)) ++ blanks)) =
      .ok (.obj (m :: members)) := by
  have htext : (write s (.obj (m :: members)) ++ blanks).isEncodable = true :=
    isEncodable_append (isEncodable_write hs hv) (isEncodable_of_blank hblanks)
  obtain ⟨rest, hrest⟩ := exists_encode_object s m members blanks
  have hdecode : Encoding.decodeDocument
      (Utf8.encode (write s (.obj (m :: members)) ++ blanks)) =
        .ok (write s (.obj (m :: members)) ++ blanks) :=
    Encoding.decodeDocument_encode htext hrest (.inr rfl) (by decide)
  have hread : read d (write s (.obj (m :: members)) ++ blanks) = .ok (.obj (m :: members)) :=
    read_write hs hv hd hblanks
  rw [readDocumentIn, hdecode]
  simp only [hread]
  rfl

theorem readDocument_writeCompact {depth : Nat} {m : Text × Json} {members : List (Text × Json)}
    (hv : Plain depth (.obj (m :: members))) :
    readDocument (Utf8.encode (writeCompact (.obj (m :: members)))) =
      .ok (.obj (m :: members)) := by
  have hread := readDocumentIn_write Style.legible_compact hv (Dialect.admits_lenient depth)
    (List.forall_mem_nil _)
  rwa [List.append_nil] at hread

/-- A plain object is what its text reads as: its text starts with no byte order mark. -/
theorem readText_write {s : Style} (hs : s.Legible) {depth : Nat} {m : Text × Json}
    {members : List (Text × Json)} (hv : Plain depth (.obj (m :: members))) {blanks : Text}
    (hblanks : Blank blanks) :
    readText .lenient (write s (.obj (m :: members)) ++ blanks) = .ok (.obj (m :: members)) := by
  have hhead : (write s (.obj (m :: members)) ++ blanks).head? = some (.char '{') := rfl
  rw [readText, hhead, if_neg (by decide)]
  exact read_write hs hv (Dialect.admits_lenient depth) hblanks

end Json
end SealedPost
