import SealedPost.Bytes
import Mathlib.Data.List.Basic

/-!
# Bytes in hexadecimal read back

Every byte is written as two digits, and a digit is no blank and no other mark that a reader
looks for, so the text reads as the bytes again.
-/

namespace SealedPost.Bytes

theorem hexDigit?_hexDigit {n : Nat} (h : n < 16) :
    (CodePoint.char (hexDigit n)).hexDigit? = some n := by
  revert n
  decide

theorem isHexBlank_hexDigit {n : Nat} (h : n < 16) :
    isHexBlank (.char (hexDigit n)) = false := by
  revert n
  decide

theorem hexDigit_ne_slash {n : Nat} (h : n < 16) : hexDigit n ≠ '/' := by
  revert n
  decide

theorem ofHex?_toHex (bytes : Bytes) : ofHex? (toHex bytes) = some bytes := by
  induction bytes with
  | nil => rfl
  | cons b rest ih =>
      have hbyte : b.toNat < 256 := b.toNat_lt
      have hhigh : b.toNat / 16 < 16 := by omega
      have hlow : b.toNat % 16 < 16 := Nat.mod_lt _ (by decide)
      have hjoin : 16 * (b.toNat / 16) + b.toNat % 16 = b.toNat := Nat.div_add_mod ..
      rw [toHex, ofHex?, isHexBlank_hexDigit hhigh, if_neg Bool.false_ne_true]
      simp only [hexDigit?_hexDigit hhigh, hexDigit?_hexDigit hlow, ih, hjoin, UInt8.ofNat_toNat,
        Option.map_some]

/-- Every code point of a text in hexadecimal is a digit. -/
theorem exists_of_mem_toHex {bytes : Bytes} {c : CodePoint} (h : c ∈ toHex bytes) :
    ∃ n < 16, c = .char (hexDigit n) := by
  induction bytes with
  | nil => cases h
  | cons b rest ih =>
      have hbyte : b.toNat < 256 := b.toNat_lt
      rw [toHex, List.mem_cons, List.mem_cons] at h
      rcases h with rfl | rfl | h
      · exact ⟨b.toNat / 16, by omega, rfl⟩
      · exact ⟨b.toNat % 16, by omega, rfl⟩
      · exact ih h

theorem toHex_ne_nil {bytes : Bytes} (h : bytes ≠ []) : toHex bytes ≠ [] := by
  cases bytes with
  | nil => exact absurd rfl h
  | cons b rest => exact List.cons_ne_nil _ _

end SealedPost.Bytes
