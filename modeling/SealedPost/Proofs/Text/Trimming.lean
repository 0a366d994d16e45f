import Mathlib.Data.List.DropRight
import SealedPost.Text.Blank

/-!
# Cutting off blanks

Blanks are cut off both ends of a text. A text without blanks stays as it is, a trimmed one does
too, and blanks that stand around a text do not matter.
-/

namespace SealedPost.Text

theorem trimBy_of_forall {blank : CodePoint → Bool} {t : Text}
    (h : ∀ c ∈ t, blank c = false) : trimBy blank t = t := by
  have hkeep {s : Text} (hs : ∀ c ∈ s, blank c = false) : s.dropWhile blank = s := by
    cases s with
    | nil => rfl
    | cons c s => rw [List.dropWhile_cons, hs c List.mem_cons_self, if_neg Bool.false_ne_true]
  rw [trimBy, hkeep h, hkeep fun c hc => h c (List.mem_reverse.mp hc), List.reverse_reverse]

/-- Blanks around a text are cut off with those that it begins and ends with. -/
theorem trimBy_append {blank : CodePoint → Bool} {before after : Text}
    (hbefore : ∀ c ∈ before, blank c = true) (hafter : ∀ c ∈ after, blank c = true) (t : Text) :
    trimBy blank (before ++ t ++ after) = trimBy blank t := by
  have hfront : (before ++ t ++ after).dropWhile blank = (t ++ after).dropWhile blank := by
    rw [List.append_assoc, List.dropWhile_append_of_pos hbefore]
  rw [trimBy, trimBy, hfront, List.dropWhile_append]
  split
  · next hempty =>
      rw [List.isEmpty_iff.mp hempty, List.dropWhile_eq_nil_iff.mpr hafter]
  · rw [List.reverse_append, List.dropWhile_append_of_pos]
    intro c hc
    exact hafter c (List.mem_reverse.mp hc)

/-- Trimming leaves a trimmed text alone. -/
theorem trim_trim (t : Text) : trim (trim t) = trim t := by
  have htrim (s : Text) : trim s =
      (s.dropWhile CodePoint.isBlank).rdropWhile CodePoint.isBlank := rfl
  have hfront : (trim t).dropWhile CodePoint.isBlank = trim t := by
    rw [List.dropWhile_eq_self_iff]
    intro hlen hblank
    have hkept : trim t <+: t.dropWhile CodePoint.isBlank := List.rdropWhile_prefix ..
    have hstart := List.dropWhile_get_zero_not CodePoint.isBlank t
      (Nat.lt_of_lt_of_le hlen hkept.length_le)
    rw [hkept.getElem hlen] at hblank
    exact hstart hblank
  rw [htrim (trim t), hfront, htrim t, List.rdropWhile_idempotent]

end SealedPost.Text
