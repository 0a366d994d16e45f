import SealedPost.Text.Utf8
import Mathlib.Data.List.Basic

/-!
# UTF-8 reads back

The bytes of a character are one sequence that stands for it, whatever follows. So a text
without lone surrogates is what its bytes decode to.
-/

namespace SealedPost.Utf8

/-- The number of a character lies outside the surrogates and below the last code point. -/
theorem toNat_char_bounds (c : Char) :
    c.toNat < 0xD800 ∨ (0xDFFF < c.toNat ∧ c.toNat < 0x110000) := c.valid

theorem toNat_ofNat_of_lt {n : Nat} (h : n < 256) : (UInt8.ofNat n).toNat = n := by
  rw [UInt8.toNat_ofNat']
  exact Nat.mod_eq_of_lt h

/-- A sequence of two bytes stands for the number that was cut into them. -/
theorem sequence_two {s : Surrogates} {n : Nat} (hlow : 0x80 ≤ n) (hhigh : n < 0x800)
    (rest : Bytes) :
    sequence s (UInt8.ofNat (0xC0 + n / 64)) (UInt8.ofNat (0x80 + n % 64) :: rest) =
      .point (CodePoint.ofNat n) 2 := by
  have hfirst : (UInt8.ofNat (0xC0 + n / 64)).toNat = 0xC0 + n / 64 :=
    toNat_ofNat_of_lt (by omega)
  have hsecond : (UInt8.ofNat (0x80 + n % 64)).toNat = 0x80 + n % 64 :=
    toNat_ofNat_of_lt (by omega)
  have hcont : isContinuation (UInt8.ofNat (0x80 + n % 64)) = true := by
    simp only [isContinuation, hsecond, Bool.and_eq_true, decide_eq_true_eq]
    omega
  have hvalue : (0xC0 + n / 64) % 32 * 64 + (0x80 + n % 64) % 64 = n := by omega
  simp only [sequence, hfirst, pair, hcont, hsecond, hvalue, if_true]
  rw [if_neg (by omega), if_neg (by omega), if_pos (by omega)]

/-- A sequence of three bytes stands for the number that was cut into them. -/
theorem sequence_three {s : Surrogates} {n : Nat} (hlow : 0x800 ≤ n) (hhigh : n < 0x10000)
    (hsur : n < 0xD800 ∨ 0xDFFF < n) (rest : Bytes) :
    sequence s (UInt8.ofNat (0xE0 + n / 4096))
      (UInt8.ofNat (0x80 + n / 64 % 64) :: UInt8.ofNat (0x80 + n % 64) :: rest) =
        .point (CodePoint.ofNat n) 3 := by
  have hfirst : (UInt8.ofNat (0xE0 + n / 4096)).toNat = 0xE0 + n / 4096 :=
    toNat_ofNat_of_lt (by omega)
  have hsecond : (UInt8.ofNat (0x80 + n / 64 % 64)).toNat = 0x80 + n / 64 % 64 :=
    toNat_ofNat_of_lt (by omega)
  have hthird : (UInt8.ofNat (0x80 + n % 64)).toNat = 0x80 + n % 64 :=
    toNat_ofNat_of_lt (by omega)
  have hcont : isContinuation (UInt8.ofNat (0x80 + n % 64)) = true := by
    simp only [isContinuation, hthird, Bool.and_eq_true, decide_eq_true_eq]
    omega
  have hbounds : (secondBounds (0xE0 + n / 4096)).1 ≤ 0x80 + n / 64 % 64 ∧
      0x80 + n / 64 % 64 ≤ (secondBounds (0xE0 + n / 4096)).2 := by
    unfold secondBounds
    split_ifs <;> constructor <;> simp only [] <;> omega
  have hvalue : (0xE0 + n / 4096) % 16 * 4096 + (0x80 + n / 64 % 64) % 64 * 64
      + (0x80 + n % 64) % 64 = n := by omega
  simp only [sequence, hfirst, triple, hcont, hsecond, hthird, hvalue, hbounds, and_self, if_true]
  rw [if_neg (by omega), if_neg (by omega), if_neg (by omega), if_pos (by omega)]

/-- A sequence of four bytes stands for the number that was cut into them. -/
theorem sequence_four {s : Surrogates} {n : Nat} (hlow : 0x10000 ≤ n) (hhigh : n < 0x110000)
    (rest : Bytes) :
    sequence s (UInt8.ofNat (0xF0 + n / 262144))
      (UInt8.ofNat (0x80 + n / 4096 % 64) :: UInt8.ofNat (0x80 + n / 64 % 64) ::
        UInt8.ofNat (0x80 + n % 64) :: rest) = .point (CodePoint.ofNat n) 4 := by
  have hfirst : (UInt8.ofNat (0xF0 + n / 262144)).toNat = 0xF0 + n / 262144 :=
    toNat_ofNat_of_lt (by omega)
  have hsecond : (UInt8.ofNat (0x80 + n / 4096 % 64)).toNat = 0x80 + n / 4096 % 64 :=
    toNat_ofNat_of_lt (by omega)
  have hthird : (UInt8.ofNat (0x80 + n / 64 % 64)).toNat = 0x80 + n / 64 % 64 :=
    toNat_ofNat_of_lt (by omega)
  have hfourth : (UInt8.ofNat (0x80 + n % 64)).toNat = 0x80 + n % 64 :=
    toNat_ofNat_of_lt (by omega)
  have hcont : isContinuation (UInt8.ofNat (0x80 + n / 64 % 64)) = true ∧
      isContinuation (UInt8.ofNat (0x80 + n % 64)) = true := by
    simp only [isContinuation, hthird, hfourth, Bool.and_eq_true, decide_eq_true_eq]
    omega
  have hbounds : (secondBounds (0xF0 + n / 262144)).1 ≤ 0x80 + n / 4096 % 64 ∧
      0x80 + n / 4096 % 64 ≤ (secondBounds (0xF0 + n / 262144)).2 := by
    unfold secondBounds
    split_ifs <;> constructor <;> simp only [] <;> omega
  have hvalue : (0xF0 + n / 262144) % 8 * 262144 + (0x80 + n / 4096 % 64) % 64 * 4096
      + (0x80 + n / 64 % 64) % 64 * 64 + (0x80 + n % 64) % 64 = n := by omega
  simp only [sequence, hfirst, quadruple, hcont, hsecond, hthird, hfourth, hvalue, hbounds,
    and_self, if_true]
  rw [if_neg (by omega), if_neg (by omega), if_neg (by omega), if_neg (by omega),
    if_pos (by omega)]

/-- The bytes of a character are one sequence that stands for it. -/
theorem sequence_encodeOne (s : Surrogates) (c : Char) :
    ∃ first tail, encodeOne (.char c) = first :: tail ∧
      ∀ rest, sequence s first (tail ++ rest) = .point (.char c) (tail.length + 1) := by
  have hchar := CodePoint.ofNat_toNat_char c
  have hbounds := toNat_char_bounds c
  simp only [CodePoint.toNat] at hchar
  by_cases h1 : c.toNat < 0x80
  · refine ⟨UInt8.ofNat c.toNat, [], by simp [encodeOne, CodePoint.toNat, h1], fun rest => ?_⟩
    have hfirst : (UInt8.ofNat c.toNat).toNat = c.toNat := toNat_ofNat_of_lt (by omega)
    simp only [sequence, hfirst, if_pos h1, hchar, List.length_nil]
  · by_cases h2 : c.toNat < 0x800
    · have hbytes : encodeOne (.char c) =
          [UInt8.ofNat (0xC0 + c.toNat / 64), UInt8.ofNat (0x80 + c.toNat % 64)] := by
        simp [encodeOne, CodePoint.toNat, h1, h2]
      refine ⟨_, _, hbytes, fun rest => ?_⟩
      exact hchar ▸ sequence_two (n := c.toNat) (by omega) h2 rest
    · by_cases h3 : c.toNat < 0x10000
      · have hbytes : encodeOne (.char c) = [UInt8.ofNat (0xE0 + c.toNat / 4096),
            UInt8.ofNat (0x80 + c.toNat / 64 % 64), UInt8.ofNat (0x80 + c.toNat % 64)] := by
          simp [encodeOne, CodePoint.toNat, h1, h2, h3]
        refine ⟨_, _, hbytes, fun rest => ?_⟩
        exact hchar ▸ sequence_three (n := c.toNat) (by omega) h3 (by omega) rest
      · have hbytes : encodeOne (.char c) = [UInt8.ofNat (0xF0 + c.toNat / 262144),
            UInt8.ofNat (0x80 + c.toNat / 4096 % 64), UInt8.ofNat (0x80 + c.toNat / 64 % 64),
            UInt8.ofNat (0x80 + c.toNat % 64)] := by
          simp [encodeOne, CodePoint.toNat, h1, h2, h3]
        refine ⟨_, _, hbytes, fun rest => ?_⟩
        exact hchar ▸ sequence_four (n := c.toNat) (by omega) (by omega) rest

/-- The bytes of a sequence after its first are passed over. -/
theorem decodeFrom_skip (s : Surrogates) (position : Nat) (tail rest : Bytes) :
    decodeFrom s position tail.length (tail ++ rest) =
      decodeFrom s (position + tail.length) 0 rest := by
  induction tail generalizing position with
  | nil => rfl
  | cons b tail ih =>
      rw [List.length_cons, List.cons_append, decodeFrom, ih]
      congr 1
      omega

theorem decodeFrom_encode (s : Surrogates) (position : Nat) {t : Text}
    (h : t.isEncodable = true) : decodeFrom s position 0 (encode t) = .ok t := by
  induction t generalizing position with
  | nil => rfl
  | cons c t ih =>
      simp only [Text.isEncodable, List.all_cons, Bool.and_eq_true] at h
      cases c with
      | surrogate u => exact absurd h.1 (by simp [CodePoint.isSurrogate])
      | char c =>
          obtain ⟨first, tail, hbytes, hseq⟩ := sequence_encodeOne s c
          have hrest := ih (position + 1 + tail.length) h.2
          rw [encode, List.flatMap_cons, hbytes, List.cons_append, decodeFrom, hseq]
          simp only [Nat.add_sub_cancel]
          rw [decodeFrom_skip]
          rw [encode] at hrest
          rw [hrest]
          rfl

/-- A text without lone surrogates is what its bytes decode to. -/
theorem decode_encode (s : Surrogates) {t : Text} (h : t.isEncodable = true) :
    decode s (encode t) = .ok t :=
  decodeFrom_encode s 0 h

/-- The bytes of a sequence after its first are passed over. -/
theorem decodeReplacingFrom_skip (tail rest : Bytes) :
    decodeReplacingFrom tail.length (tail ++ rest) = decodeReplacingFrom 0 rest := by
  induction tail with
  | nil => rfl
  | cons b tail ih => rw [List.length_cons, List.cons_append, decodeReplacingFrom, ih]

/-- In the bytes of a text without lone surrogates there is nothing to replace. -/
theorem decodeReplacing_encode {t : Text} (h : t.isEncodable = true) :
    decodeReplacing (encode t) = t := by
  unfold decodeReplacing
  induction t with
  | nil => rfl
  | cons c t ih =>
      simp only [Text.isEncodable, List.all_cons, Bool.and_eq_true] at h
      cases c with
      | surrogate u => exact absurd h.1 (by simp [CodePoint.isSurrogate])
      | char c =>
          obtain ⟨first, tail, hbytes, hseq⟩ := sequence_encodeOne .refuse c
          have hrest := ih h.2
          rw [encode] at hrest
          rw [encode, List.flatMap_cons, hbytes, List.cons_append, decodeReplacingFrom, hseq]
          simp only [Nat.add_sub_cancel]
          rw [decodeReplacingFrom_skip, hrest]

end SealedPost.Utf8
