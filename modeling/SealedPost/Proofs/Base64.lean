import SealedPost.Base64
import SealedPost.Text.Blank
import Mathlib.Data.List.Basic

/-!
# Base64 reads back

Three bytes give four digits from which a reader that stands between two groups takes
them again, and the padding of a last group ends the reading. So the written form of bytes
reads as these bytes, in the strict reading and in the lenient one. In the form for addresses
the padding is left out; it can be told from the number of digits, so this form reads back, too.
-/

namespace SealedPost.Base64

/-- The digits of the standard alphabet. -/
def standardDigit (n : Nat) : CodePoint := digit '+' '/' n

theorem sextet?_standardDigit {n : Nat} (h : n < 64) : sextet? (standardDigit n) = some n :=
  sextet?_digit h

/-- A digit is an ASCII character, no padding and no blank. -/
theorem standardDigit_props {n : Nat} (h : n < 64) :
    standardDigit n ≠ .char '=' ∧ (standardDigit n).isAscii = true ∧
      (standardDigit n).isBlank = false := by
  revert n
  decide

/-- A digit moves a reader on that has seen no padding. -/
theorem scan_standardDigit (reading : Reading) {p : Progress} (hp : p.padded = false) {n : Nat}
    (h : n < 64) (rest : Text) :
    scan reading p (standardDigit n :: rest) =
      match p.digit n with
      | (none, next) => scan reading next rest
      | (some byte, next) => (scan reading next rest).map (byte :: ·) := by
  rw [scan, if_neg (standardDigit_props h).1, sextet?_standardDigit h]
  simp only [hp]
  exact if_neg fun hpad => Bool.false_ne_true hpad.2

theorem ofNat_eq_of_toNat_eq {n : Nat} {b : UInt8} (h : n = b.toNat) : UInt8.ofNat n = b := by
  rw [h, UInt8.ofNat_toNat]

/-- A whole group gives its three bytes and leaves the reader between groups. -/
theorem scan_group (reading : Reading) (a b c : UInt8) (produced : Nat) (rest : Text) :
    scan reading ⟨0, 0, 0, false, produced⟩
      (standardDigit (a.toNat / 4) :: standardDigit (a.toNat % 4 * 16 + b.toNat / 16) ::
        standardDigit (b.toNat % 16 * 4 + c.toNat / 64) :: standardDigit (c.toNat % 64) :: rest) =
      (scan reading ⟨0, 0, 0, false, produced + 3⟩ rest).map fun bytes => a :: b :: c :: bytes := by
  have ha := a.toNat_lt
  have hb := b.toNat_lt
  have hc := c.toNat_lt
  have hA : UInt8.ofNat (a.toNat / 4 * 4 + (a.toNat % 4 * 16 + b.toNat / 16) / 16) = a :=
    ofNat_eq_of_toNat_eq (by omega)
  have hB : UInt8.ofNat ((a.toNat % 4 * 16 + b.toNat / 16) % 16 * 16 +
      (b.toNat % 16 * 4 + c.toNat / 64) / 4) = b := ofNat_eq_of_toNat_eq (by omega)
  have hC : UInt8.ofNat ((b.toNat % 16 * 4 + c.toNat / 64) % 4 * 64 + c.toNat % 64) = c :=
    ofNat_eq_of_toNat_eq (by omega)
  rw [scan_standardDigit reading rfl (by omega)]
  simp only [Progress.digit]
  rw [scan_standardDigit reading rfl (by omega)]
  simp only [Progress.digit]
  rw [scan_standardDigit reading rfl (by omega)]
  simp only [Progress.digit]
  rw [scan_standardDigit reading rfl (by omega)]
  simp only [Progress.digit, hA, hB, hC]
  cases scan reading ⟨0, 0, 0, false, produced + 1 + 1 + 1⟩ rest <;> rfl

/-- The padding that completes a group ends the reading. -/
theorem scan_padding (reading : Reading) (left produced : Nat) :
    scan reading ⟨2, left, 0, false, produced⟩ [.char '=', .char '='] = .ok [] ∧
      scan reading ⟨3, left, 0, false, produced⟩ [.char '='] = .ok [] := by
  cases reading <;> exact ⟨rfl, rfl⟩

/-- The last group of one byte. -/
theorem scan_one (reading : Reading) (a : UInt8) (produced : Nat) :
    scan reading ⟨0, 0, 0, false, produced⟩
      [standardDigit (a.toNat / 4), standardDigit (a.toNat % 4 * 16), .char '=', .char '='] =
      .ok [a] := by
  have ha := a.toNat_lt
  have hA : UInt8.ofNat (a.toNat / 4 * 4 + a.toNat % 4 * 16 / 16) = a :=
    ofNat_eq_of_toNat_eq (by omega)
  rw [scan_standardDigit reading rfl (by omega)]
  simp only [Progress.digit]
  rw [scan_standardDigit reading rfl (by omega)]
  simp only [Progress.digit, hA, (scan_padding reading _ _).1]
  rfl

/-- The last group of two bytes. -/
theorem scan_two (reading : Reading) (a b : UInt8) (produced : Nat) :
    scan reading ⟨0, 0, 0, false, produced⟩
      [standardDigit (a.toNat / 4), standardDigit (a.toNat % 4 * 16 + b.toNat / 16),
        standardDigit (b.toNat % 16 * 4), .char '='] = .ok [a, b] := by
  have ha := a.toNat_lt
  have hb := b.toNat_lt
  have hA : UInt8.ofNat (a.toNat / 4 * 4 + (a.toNat % 4 * 16 + b.toNat / 16) / 16) = a :=
    ofNat_eq_of_toNat_eq (by omega)
  have hB : UInt8.ofNat ((a.toNat % 4 * 16 + b.toNat / 16) % 16 * 16 + b.toNat % 16 * 4 / 4) = b :=
    ofNat_eq_of_toNat_eq (by omega)
  rw [scan_standardDigit reading rfl (by omega)]
  simp only [Progress.digit]
  rw [scan_standardDigit reading rfl (by omega)]
  simp only [Progress.digit]
  rw [scan_standardDigit reading rfl (by omega)]
  simp only [Progress.digit, hA, hB, (scan_padding reading _ _).2]
  rfl

/-- A reader between two groups takes back what was written. -/
theorem scan_encode (reading : Reading) (bytes : Bytes) (produced : Nat) :
    scan reading ⟨0, 0, 0, false, produced⟩ (encode bytes) = .ok bytes := by
  unfold encode
  fun_induction encodeWith (digit '+' '/') (fun n => List.replicate n (.char '=')) bytes
    generalizing produced with
  | case1 => rfl
  | case2 a => exact scan_one reading a produced
  | case3 a b => exact scan_two reading a b produced
  | case4 a b c rest ih =>
      have hgroup := scan_group reading a b c produced
      simp only [standardDigit] at hgroup
      rw [hgroup, ih]
      rfl

/-- Every character of a written form is a digit or stands in the padding. -/
theorem mem_encodeWith {digit : Nat → CodePoint} {padding : Nat → Text} {bytes : Bytes}
    {c : CodePoint} (h : c ∈ encodeWith digit padding bytes) :
    (∃ n < 64, c = digit n) ∨ ∃ count, c ∈ padding count := by
  fun_induction encodeWith digit padding bytes with
  | case1 => cases h
  | case2 a =>
      have ha := a.toNat_lt
      simp only [List.mem_cons] at h
      rcases h with rfl | rfl | hpadding
      · exact .inl ⟨_, by omega, rfl⟩
      · exact .inl ⟨_, by omega, rfl⟩
      · exact .inr ⟨_, hpadding⟩
  | case3 a b =>
      have ha := a.toNat_lt
      have hb := b.toNat_lt
      simp only [List.mem_cons] at h
      rcases h with rfl | rfl | rfl | hpadding
      · exact .inl ⟨_, by omega, rfl⟩
      · exact .inl ⟨_, by omega, rfl⟩
      · exact .inl ⟨_, by omega, rfl⟩
      · exact .inr ⟨_, hpadding⟩
  | case4 a b c rest ih =>
      have ha := a.toNat_lt
      have hb := b.toNat_lt
      have hc := c.toNat_lt
      simp only [List.mem_cons] at h
      rcases h with rfl | rfl | rfl | rfl | hrest
      · exact .inl ⟨_, by omega, rfl⟩
      · exact .inl ⟨_, by omega, rfl⟩
      · exact .inl ⟨_, by omega, rfl⟩
      · exact .inl ⟨_, by omega, rfl⟩
      · exact ih hrest

/-- Every character of the padded form is a digit or padding. -/
theorem mem_encode {bytes : Bytes} {c : CodePoint} (h : c ∈ encode bytes) :
    c = .char '=' ∨ ∃ n < 64, c = standardDigit n := by
  rcases mem_encodeWith h with hdigit | ⟨count, hpadding⟩
  · exact .inr hdigit
  · exact .inl (List.eq_of_mem_replicate hpadding)

/-- The written form starts with a digit. -/
theorem head?_encode_ne_padding (bytes : Bytes) : (encode bytes).head? ≠ some (.char '=') := by
  have hdigit (a : UInt8) : digit '+' '/' (a.toNat / 4) ≠ .char '=' :=
    (standardDigit_props (by have := a.toNat_lt; omega)).1
  unfold encode
  fun_cases encodeWith (digit '+' '/') (fun n => List.replicate n (.char '=')) bytes with
  | case1 => simp
  | case2 a => simpa using hdigit a
  | case3 a b => simpa using hdigit a
  | case4 a b c rest => simpa using hdigit a

/-- The strict reading takes back what was written. -/
theorem decode_encode (bytes : Bytes) : decode (encode bytes) = .ok bytes := by
  have hascii : (encode bytes).all CodePoint.isAscii = true := by
    rw [List.all_eq_true]
    intro c hc
    rcases mem_encode hc with rfl | ⟨n, hn, rfl⟩
    · rfl
    · exact (standardDigit_props hn).2.1
  rw [decode, if_pos hascii, if_neg (head?_encode_ne_padding bytes)]
  exact scan_encode .strict bytes 0

/-- Every group of three bytes takes four characters, a last one that is not whole too. -/
theorem length_encode (bytes : Bytes) : (encode bytes).length = 4 * ((bytes.length + 2) / 3) := by
  unfold encode
  fun_induction encodeWith (digit '+' '/') (fun n => List.replicate n (.char '=')) bytes with
  | case1 => rfl
  | case2 a => simp
  | case3 a b => simp
  | case4 a b c rest ih =>
      simp only [List.length_cons, ih]
      omega

section Addresses

/-- The digits of the alphabet for addresses. -/
def addressDigit (n : Nat) : CodePoint := digit '-' '_' n

/-- A digit for addresses is an ASCII character and no blank, and it is neither padding nor a point
nor a sign of the standard alphabet. -/
theorem addressDigit_props {n : Nat} (h : n < 64) :
    (addressDigit n).isAscii = true ∧ (addressDigit n).isBlank = false ∧
      addressDigit n ∉ ['=', '.', '+', '/'].map CodePoint.char := by
  revert n
  decide

theorem standardSign_addressDigit {n : Nat} (h : n < 64) :
    standardSign (addressDigit n) = standardDigit n := by
  revert n
  decide

theorem mem_encodeUrl {bytes : Bytes} {c : CodePoint} (h : c ∈ encodeUrl bytes) :
    ∃ n < 64, c = addressDigit n := by
  rcases mem_encodeWith h with hdigit | ⟨count, hpadding⟩
  · exact hdigit
  · cases hpadding

/-- Digits that are changed one by one give the form that is written with the changed digits. -/
theorem map_encodeWith {f : CodePoint → CodePoint} {digit changed : Nat → CodePoint}
    (h : ∀ n < 64, f (digit n) = changed n) (padding : Nat → Text) (bytes : Bytes) :
    (encodeWith digit padding bytes).map f =
      encodeWith changed (fun count => (padding count).map f) bytes := by
  fun_induction encodeWith digit padding bytes with
  | case1 => rfl
  | case2 a =>
      have ha := a.toNat_lt
      simp only [encodeWith, List.map_cons]
      rw [h _ (by omega), h _ (by omega)]
  | case3 a b =>
      have ha := a.toNat_lt
      have hb := b.toNat_lt
      simp only [encodeWith, List.map_cons]
      rw [h _ (by omega), h _ (by omega), h _ (by omega)]
  | case4 a b c rest ih =>
      have ha := a.toNat_lt
      have hb := b.toNat_lt
      have hc := c.toNat_lt
      simp only [encodeWith, List.map_cons]
      rw [h _ (by omega), h _ (by omega), h _ (by omega), h _ (by omega), ih]

/-- What the padding was can be told from the number of digits: it fills up the last group. -/
theorem encodeWith_append_padding (digit : Nat → CodePoint) (sign : CodePoint) (bytes : Bytes) :
    let digits := encodeWith digit (fun _ => []) bytes
    digits ++ List.replicate ((4 - digits.length % 4) % 4) sign =
      encodeWith digit (fun count => List.replicate count sign) bytes := by
  intro digits
  unfold digits
  fun_induction encodeWith digit (fun _ => []) bytes with
  | case1 => rfl
  | case2 a => rfl
  | case3 a b => rfl
  | case4 a b c rest ih =>
      rw [encodeWith, ← ih]
      simp only [List.length_cons, List.cons_append, Nat.add_assoc, Nat.add_mod_right]

/-- The lenient reading takes back what was written for addresses. -/
theorem decodeUrl_encodeUrl (bytes : Bytes) : decodeUrl (encodeUrl bytes) = .ok bytes := by
  have hstandard : (encodeUrl bytes).map standardSign =
      encodeWith standardDigit (fun _ => []) bytes :=
    map_encodeWith (fun n hn => standardSign_addressDigit hn) _ bytes
  let padding : Text :=
    List.replicate ((4 - (encodeUrl bytes).length % 4) % 4) (.char '=')
  have hfilled : (encodeUrl bytes ++ padding).map standardSign = encode bytes := by
    calc (encodeUrl bytes ++ padding).map standardSign
        = (encodeUrl bytes).map standardSign ++ padding := by
          rw [List.map_append, List.map_replicate]
          rfl
      _ = encode bytes := by
          have hlength := congrArg List.length hstandard
          rw [List.length_map] at hlength
          unfold padding
          rw [hstandard, hlength]
          exact encodeWith_append_padding standardDigit (.char '=') bytes
  have hascii : (encodeUrl bytes ++ padding).all CodePoint.isAscii = true := by
    rw [List.all_eq_true]
    intro c hc
    rcases List.mem_append.mp hc with hdigit | hpadding
    · obtain ⟨n, hn, rfl⟩ := mem_encodeUrl hdigit
      exact (addressDigit_props hn).1
    · rw [List.eq_of_mem_replicate hpadding]
      rfl
  calc decodeUrl (encodeUrl bytes)
      = scan .lenient .start ((encodeUrl bytes ++ padding).map standardSign) := if_pos hascii
    _ = scan .lenient .start (encode bytes) := by rw [hfilled]
    _ = .ok bytes := scan_encode .lenient bytes 0

end Addresses

end SealedPost.Base64
