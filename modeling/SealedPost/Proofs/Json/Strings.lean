import SealedPost.Json.Lexeme
import SealedPost.Json.Writer
import SealedPost.Proofs.Hex
import SealedPost.Proofs.Text.Utf8

/-!
# Strings of JSON read back

Every character of a string is written as itself, as an escape of two characters, as the number
of a unit of UTF-16, or as two such numbers. The lexer makes the same character of each of
these, in whatever style the string is written, and ends where the next character begins.
-/

namespace SealedPost.Json

theorem isEncodable_append {s t : Text} (hs : s.isEncodable = true) (ht : t.isEncodable = true) :
    (s ++ t).isEncodable = true := by
  rw [Text.isEncodable, List.all_append, Bool.and_eq_true]
  exact ⟨hs, ht⟩

theorem isEncodable_cons {c : Char} {t : Text} (ht : t.isEncodable = true) :
    Text.isEncodable (.char c :: t) = true :=
  ht

/-- What may be written for a character: an escape of two characters, the number of its unit or
those of its two, or the character itself. -/
inductive Spelling (c : Char) : Text → Prop
  | letter (letter : Char) (hletter : letter ≠ 'u') (hc : Lexer.escaped? letter = some c) :
      Spelling c [.char '\\', .char letter]
  | unit (hc : c.toNat < 0x10000) : Spelling c (unitEscape c.toNat)
  | pair (hc : 0x10000 ≤ c.toNat) :
      Spelling c (unitEscape (0xD800 + (c.toNat - 0x10000) / 1024) ++
        unitEscape (0xDC00 + (c.toNat - 0x10000) % 1024))
  | itself (hquote : c ≠ '"') (hslash : c ≠ '\\') (hlow : 0x20 ≤ c.toNat) : Spelling c [.char c]

/-- Every style spells characters in one of these ways. -/
theorem spelling_writeCodePoint (s : Style) (c : Char) :
    Spelling c (writeCodePoint s (.char c)) := by
  have letter {k : Char} (h : CodePoint.char c = .char k) (l : Char) (hletter : l ≠ 'u')
      (hk : Lexer.escaped? l = some k) : Spelling c [.char '\\', .char l] :=
    .letter l hletter (CodePoint.char.inj h ▸ hk)
  unfold writeCodePoint
  split
  · next h => exact letter h '"' (by decide) rfl
  split
  · next h => exact letter h '\\' (by decide) rfl
  split
  · next h => exact letter h 'n' (by decide) rfl
  split
  · next h => exact letter h 'r' (by decide) rfl
  split
  · next h => exact letter h 't' (by decide) rfl
  split
  · next h => exact letter h 'b' (by decide) rfl
  split
  · next h => exact letter h 'f' (by decide) rfl
  split
  · next hlow => exact .unit (Nat.lt_trans hlow (by decide))
  · next hquote hslash _ _ _ _ _ hlow =>
      unfold wideEscape
      split
      · split
        · next hunit => exact .unit hunit
        · next hunit => exact .pair (Nat.le_of_not_lt hunit)
      · exact .itself (fun h => hquote (congrArg _ h)) (fun h => hslash (congrArg _ h))
          (Nat.le_of_not_lt hlow)

/-- What is written for a character holds no lone surrogate. -/
theorem Spelling.isEncodable {c : Char} {spelled : Text} (h : Spelling c spelled) :
    spelled.isEncodable = true := by
  cases h <;> rfl

/-- A text without lone surrogates is written without them. -/
theorem isEncodable_writeString (s : Style) {t : Text} (ht : t.isEncodable = true) :
    (writeString s t).isEncodable = true := by
  have hflat : Text.isEncodable (t.flatMap (writeCodePoint s)) = true := by
    rw [Text.isEncodable, List.all_eq_true] at ht ⊢
    intro c hc
    obtain ⟨d, hd, hc⟩ := List.mem_flatMap.mp hc
    cases d with
    | surrogate u => exact absurd (ht _ hd) (by simp [CodePoint.isSurrogate])
    | char d => exact List.all_eq_true.mp (spelling_writeCodePoint s d).isEncodable c hc
  exact isEncodable_append (isEncodable_cons hflat) rfl

namespace Lexer

/-- The places in a string at which the next character may begin. -/
inductive Ready : StringPhase → Prop
  | plain : Ready .plain
  | afterDigits (letter : Nat) : Ready (.afterDigits letter)

variable {phase : StringPhase} {start : Nat}

theorem run_cons_of_step {mode next : Mode} {position : Nat} {c : CodePoint}
    (h : step mode position c = ([], next)) (rest : Text) :
    run mode position (c :: rest) = run next (position + 1) rest := by
  rw [run, h]
  rfl

/-- A quote ends a string. -/
theorem run_quote (hready : Ready phase) (reversed : Text) (position : Nat) (rest : Text) :
    run (.inString start phase ⟨reversed, none⟩) position (.char '"' :: rest) =
      ⟨start, .string reversed.reverse⟩ :: run .between (position + 1) rest := by
  cases hready <;> simp [run, step, stepString, Partial.text]

/-- A character that is not escaped joins the string. -/
theorem run_unescaped (hready : Ready phase) (reversed : Text) {c : Char} (hquote : c ≠ '"')
    (hslash : c ≠ '\\') (hlow : 0x20 ≤ c.toNat) (position : Nat) (rest : Text) :
    run (.inString start phase ⟨reversed, none⟩) position (.char c :: rest) =
      run (.inString start .plain ⟨.char c :: reversed, none⟩) (position + 1) rest := by
  apply run_cons_of_step
  have hnat : ¬ CodePoint.toNat (.char c) < 0x20 := by simpa [CodePoint.toNat] using hlow
  cases hready <;> simp [step, stepString, Partial.push, hquote, hslash, hnat]

theorem run_backslash (hready : Ready phase) (part : Partial) (position : Nat) (rest : Text) :
    run (.inString start phase part) position (.char '\\' :: rest) =
      run (.inString start .backslash part) (position + 1) rest := by
  apply run_cons_of_step
  cases hready <;> rfl

/-- An escape of two characters joins the string as the character that it stands for. -/
theorem run_letter (hready : Ready phase) (reversed : Text) {letter c : Char}
    (hletter : letter ≠ 'u') (hc : escaped? letter = some c) (position : Nat) (rest : Text) :
    run (.inString start phase ⟨reversed, none⟩) position (.char '\\' :: .char letter :: rest) =
      run (.inString start .plain ⟨.char c :: reversed, none⟩) (position + 2) rest := by
  rw [run_backslash hready]
  apply run_cons_of_step
  simp [step, stepString, hletter, CodePoint.toChar?, hc, Partial.push]

/-- One of the first three digits of a unit. -/
theorem run_digit {letter seen value k : Nat} (hseen : seen ≠ 3) (part : Partial) (n : Nat)
    (position : Nat) (rest : Text) :
    run (.inString start (.digits letter seen value) part) position
        (.char (Bytes.hexDigit (n / k % 16)) :: rest) =
      run (.inString start (.digits letter (seen + 1) (16 * value + n / k % 16)) part)
        (position + 1) rest := by
  apply run_cons_of_step
  have hdigit := Bytes.hexDigit?_hexDigit (Nat.mod_lt (n / k) (by decide : 0 < 16))
  simp only [step, stepString, hdigit, if_neg hseen]

/-- The last digit of a unit. -/
theorem run_lastDigit {letter value k : Nat} (part : Partial) (n : Nat) (position : Nat)
    (rest : Text) :
    run (.inString start (.digits letter 3 value) part) position
        (.char (Bytes.hexDigit (n / k % 16)) :: rest) =
      run (.inString start (.afterDigits letter) (part.pushUnit (16 * value + n / k % 16)))
        (position + 1) rest := by
  apply run_cons_of_step
  have hdigit := Bytes.hexDigit?_hexDigit (Nat.mod_lt (n / k) (by decide : 0 < 16))
  simp only [step, stepString, hdigit, if_true]

/-- The number of a unit is read as the unit. -/
theorem run_unitEscape (hready : Ready phase) (part : Partial) {n : Nat} (hn : n < 0x10000)
    (position : Nat) (rest : Text) :
    run (.inString start phase part) position (unitEscape n ++ rest) =
      run (.inString start (.afterDigits (position + 1)) (part.pushUnit n)) (position + 6)
        rest := by
  have hletter : step (.inString start .backslash part) (position + 1) (.char 'u') =
      ([], .inString start (.digits (position + 1) 0 0) part) := rfl
  have hvalue : 16 * (16 * (16 * (16 * 0 + n / 4096 % 16) + n / 256 % 16) + n / 16 % 16)
      + n / 1 % 16 = n := by
    omega
  simp only [unitEscape, List.cons_append, List.nil_append]
  rw [run_backslash hready, run_cons_of_step hletter, run_digit (by decide), run_digit (by decide),
    run_digit (by decide), run_lastDigit, hvalue]

/-- A character below the surrogates or above them is one unit. -/
theorem pushUnit_char {reversed : Text} {c : Char} (hc : c.toNat < 0x10000) :
    Partial.pushUnit ⟨reversed, none⟩ c.toNat = ⟨.char c :: reversed, none⟩ := by
  have hchar := CodePoint.ofNat_toNat_char c
  have hvalid := Utf8.toNat_char_bounds c
  rw [CodePoint.toNat] at hchar
  rw [Partial.pushUnit, if_neg (by omega), hchar]

/-- A character past the units is a pair of them. -/
theorem pushUnit_pushUnit_char {reversed : Text} {c : Char} (hc : 0x10000 ≤ c.toNat) :
    (Partial.pushUnit ⟨reversed, none⟩ (0xD800 + (c.toNat - 0x10000) / 1024)).pushUnit
      (0xDC00 + (c.toNat - 0x10000) % 1024) = ⟨.char c :: reversed, none⟩ := by
  have hchar := CodePoint.ofNat_toNat_char c
  have hvalid := Utf8.toNat_char_bounds c
  rw [CodePoint.toNat] at hchar
  have hjoin : 0x10000 + (0xD800 + (c.toNat - 0x10000) / 1024 - 0xD800) * 1024
      + (0xDC00 + (c.toNat - 0x10000) % 1024 - 0xDC00) = c.toNat := by
    omega
  have hhigh : Partial.pushUnit ⟨reversed, none⟩ (0xD800 + (c.toNat - 0x10000) / 1024) =
      ⟨reversed, some (0xD800 + (c.toNat - 0x10000) / 1024)⟩ := by
    rw [Partial.pushUnit, if_pos ⟨Nat.le_add_right .., by omega⟩]
  rw [hhigh]
  simp only [Partial.pushUnit]
  rw [if_pos ⟨Nat.le_add_right .., by omega⟩, hjoin, hchar]

/-- However a character is spelled, the lexer reads the character, and stands where the next one
may begin. -/
theorem run_spelling {c : Char} {spelled : Text} (hspelled : Spelling c spelled)
    (start : Nat) (hready : Ready phase) (reversed : Text) (position : Nat) (rest : Text) :
    ∃ phase' q, Ready phase' ∧
      run (.inString start phase ⟨reversed, none⟩) position (spelled ++ rest) =
        run (.inString start phase' ⟨.char c :: reversed, none⟩) q rest := by
  cases hspelled with
  | letter l hletter hc =>
      exact ⟨.plain, position + 2, .plain, run_letter hready reversed hletter hc position rest⟩
  | unit hc =>
      refine ⟨_, position + 6, .afterDigits (position + 1), ?_⟩
      rw [run_unitEscape hready _ hc, pushUnit_char hc]
  | pair hc =>
      have hvalid := Utf8.toNat_char_bounds c
      refine ⟨_, position + 6 + 6, .afterDigits (position + 6 + 1), ?_⟩
      rw [List.append_assoc, run_unitEscape hready _ (by omega),
        run_unitEscape (.afterDigits _) _ (by omega), pushUnit_pushUnit_char hc]
  | itself hquote hslash hlow =>
      exact ⟨.plain, position + 1, .plain,
        run_unescaped hready reversed hquote hslash hlow position rest⟩

/-- Inside a string its characters join it one after the other, and a quote ends it. -/
theorem run_inString (s : Style) {t : Text} (ht : t.isEncodable = true) (start : Nat)
    (hready : Ready phase) (reversed : Text) (position : Nat) (rest : Text) :
    ∃ q, run (.inString start phase ⟨reversed, none⟩) position
        (t.flatMap (writeCodePoint s) ++ .char '"' :: rest) =
      ⟨start, .string (reversed.reverse ++ t)⟩ :: run .between q rest := by
  induction t generalizing phase reversed position with
  | nil =>
      refine ⟨position + 1, ?_⟩
      rw [List.flatMap_nil, List.nil_append, run_quote hready, List.append_nil]
  | cons c t ih =>
      rw [Text.isEncodable, List.all_cons, Bool.and_eq_true] at ht
      cases c with
      | surrogate u => exact absurd ht.1 (by simp [CodePoint.isSurrogate])
      | char c =>
          obtain ⟨phase', p, hready', hp⟩ := run_spelling (spelling_writeCodePoint s c) start
            hready reversed position (t.flatMap (writeCodePoint s) ++ .char '"' :: rest)
          obtain ⟨q, hq⟩ := ih ht.2 hready' (.char c :: reversed) p
          refine ⟨q, ?_⟩
          rw [List.flatMap_cons, List.append_assoc, hp, hq]
          simp

/-- A written string is one lexeme, whatever its characters and its style. -/
theorem run_writeString (s : Style) {t : Text} (ht : t.isEncodable = true) (position : Nat)
    (rest : Text) :
    ∃ q, run .between position (writeString s t ++ rest) =
      ⟨position, .string t⟩ :: run .between q rest := by
  have hopen : step .between position (.char '"') = ([], .inString position .plain ⟨[], none⟩) :=
    rfl
  obtain ⟨q, hq⟩ := run_inString s ht position .plain [] (position + 1) rest
  refine ⟨q, ?_⟩
  have htext : writeString s t ++ rest =
      .char '"' :: (t.flatMap (writeCodePoint s) ++ .char '"' :: rest) := by
    simp [writeString]
  rw [htext, run_cons_of_step hopen, hq]
  rfl

end Lexer
end SealedPost.Json
