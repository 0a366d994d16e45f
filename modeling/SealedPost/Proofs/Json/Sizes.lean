import Mathlib.Algebra.BigOperators.Group.List.Basic
import Mathlib.Algebra.Order.Ring.Nat
import SealedPost.Json.Writer
import SealedPost.Text.Utf8

/-!
# How long documents are

Whether characters are counted or the bytes that encode them, the size of a text is the sum of the
sizes of its parts, and a character of ASCII has size one. So the size of a document follows from
the sizes of its items and members and from their number, in every style.
-/

namespace SealedPost

/-- A size of texts adds up over their parts and counts a character of ASCII once. -/
structure Text.Size (size : Text → Nat) : Prop where
  append : ∀ t u, size (t ++ u) = size t + size u
  ascii : ∀ c : CodePoint, c.isAscii = true → size [c] = 1

/-- The number of characters is a size. -/
theorem Text.size_length : Text.Size List.length where
  append := fun _ _ => List.length_append
  ascii := fun _ _ => rfl

/-- The number of bytes that encode a text is a size. -/
theorem Text.size_encode : Text.Size fun t => (Utf8.encode t).length where
  append := fun t u => by rw [Utf8.encode, List.flatMap_append, List.length_append]; rfl
  ascii := fun c hc => by
    have hascii : c.toNat < 0x80 := of_decide_eq_true hc
    simp [Utf8.encode, Utf8.encodeOne, hascii]

namespace Text.Size

variable {size : Text → Nat}

theorem nil (h : Size size) : size [] = 0 := by
  have hnil := h.append [] []
  rw [List.append_nil] at hnil
  omega

theorem cons (h : Size size) (c : CodePoint) (t : Text) : size (c :: t) = size [c] + size t :=
  h.append [c] t

/-- A text in ASCII has as many characters as its size says. -/
theorem of_ascii (h : Size size) {t : Text} (ht : ∀ c ∈ t, c.isAscii = true) :
    size t = t.length := by
  induction t with
  | nil => exact h.nil
  | cons c t ih =>
      obtain ⟨hc, ht⟩ := List.forall_mem_cons.mp ht
      rw [h.cons, h.ascii c hc, ih ht, List.length_cons, Nat.add_comm]

end Text.Size

namespace Json

/-- Holds for the characters that every style writes as they are: the visible ones of ASCII and
the space, apart from the quote and the backslash. -/
def isLiteral (c : CodePoint) : Bool :=
  0x20 ≤ c.toNat && c.toNat < 0x7F && c ≠ .char '"' && c ≠ .char '\\'

theorem isAscii_of_isLiteral {c : CodePoint} (h : isLiteral c = true) : c.isAscii = true := by
  simp only [isLiteral, Bool.and_eq_true, decide_eq_true_eq] at h
  exact decide_eq_true (Nat.lt_succ_of_lt h.1.1.2)

theorem writeCodePoint_of_isLiteral (s : Style) {c : CodePoint} (h : isLiteral c = true) :
    writeCodePoint s c = [c] := by
  simp only [isLiteral, Bool.and_eq_true, decide_eq_true_eq] at h
  obtain ⟨⟨⟨hlow, hhigh⟩, hquote⟩, hslash⟩ := h
  have hcontrol {k : Char} (hk : k.toNat < 0x20) : c ≠ .char k := by
    rintro rfl
    exact Nat.not_lt.mpr hlow hk
  have hwide : (s.asciiOnly && decide (0x7F ≤ c.toNat)) = false := by
    rw [decide_eq_false (Nat.not_le.mpr hhigh), Bool.and_false]
  rw [writeCodePoint, if_neg hquote, if_neg hslash, if_neg (hcontrol (by decide)),
    if_neg (hcontrol (by decide)), if_neg (hcontrol (by decide)), if_neg (hcontrol (by decide)),
    if_neg (hcontrol (by decide)), if_neg (Nat.not_lt.mpr hlow), hwide]
  exact if_neg Bool.false_ne_true

section Documents

variable {size : Text → Nat} (hsize : Text.Size size) (s : Style)

include hsize

/-- A string of literal characters takes two more, its quotes. -/
theorem size_writeString {t : Text} (ht : ∀ c ∈ t, isLiteral c = true) :
    size (writeString s t) = t.length + 2 := by
  have hbody : t.flatMap (writeCodePoint s) = t := by
    rw [List.flatMap_congr fun c hc => writeCodePoint_of_isLiteral s (ht c hc)]
    exact List.flatMap_singleton' t
  have hquote : size [.char '"'] = 1 := hsize.ascii _ (by decide)
  rw [writeString, hbody, hsize.append, hsize.cons, hquote,
    hsize.of_ascii fun c hc => isAscii_of_isLiteral (ht c hc)]
  omega

theorem size_writeItems (items : List Json) :
    size (writeItems s items) = (items.map fun v => size (write s v)).sum +
      (items.length - 1) * size s.itemSeparator := by
  induction items with
  | nil => simp [writeItems, hsize.nil]
  | cons v rest ih =>
      cases rest with
      | nil => simp [writeItems]
      | cons w rest =>
          rw [writeItems, hsize.append, hsize.append, ih]
          simp only [List.map_cons, List.sum_cons, List.length_cons, Nat.add_sub_cancel,
            Nat.succ_mul]
          omega

theorem size_writeMembers (members : List (Text × Json)) :
    size (writeMembers s members) =
      (members.map fun m =>
        size (writeString s m.1) + size s.nameSeparator + size (write s m.2)).sum +
      (members.length - 1) * size s.itemSeparator := by
  induction members with
  | nil => simp [writeMembers, hsize.nil]
  | cons m rest ih =>
      obtain ⟨name, v⟩ := m
      cases rest with
      | nil => simp [writeMembers, hsize.append, Nat.add_assoc]
      | cons m rest =>
          rw [writeMembers, hsize.append, hsize.append, hsize.append, hsize.append, ih]
          simp only [List.map_cons, List.sum_cons, List.length_cons, Nat.add_sub_cancel,
            Nat.succ_mul]
          omega

theorem size_write_arr (items : List Json) :
    size (write s (.arr items)) = 2 + (items.map fun v => size (write s v)).sum +
      (items.length - 1) * size s.itemSeparator := by
  rw [write, hsize.append, hsize.cons, hsize.ascii _ (by decide), hsize.ascii _ (by decide),
    size_writeItems hsize]
  omega

theorem size_write_obj (members : List (Text × Json)) :
    size (write s (.obj members)) = 2 +
      (members.map fun m =>
        size (writeString s m.1) + size s.nameSeparator + size (write s m.2)).sum +
      (members.length - 1) * size s.itemSeparator := by
  rw [write, hsize.append, hsize.cons, hsize.ascii _ (by decide), hsize.ascii _ (by decide),
    size_writeMembers hsize]
  omega

end Documents

end Json
end SealedPost
