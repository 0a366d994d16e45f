import SealedPost.Text.Integer
import Mathlib.Data.List.Basic

/-!
# Which texts are integers

An integer in text is a sign or none and a numeral, with blanks around them: decimal digits of any
script, where one underscore may stand between two of them. The reader takes exactly these, up to
the limit on digits, and gives the number that the digits stand for in base ten.
-/

namespace SealedPost.Text

/-- What may follow at a place in a numeral, with the values of the digits in it. After a digit
the numeral may end, go on, or go on after one underscore; anywhere else a digit has to come. -/
inductive Digits : (afterDigit : Bool) → Text → List Nat → Prop
  | done : Digits true [] []
  | digit {afterDigit : Bool} {c : CodePoint} {d : Nat} {t : Text} {ds : List Nat}
      (hc : c.decimal? = some d) (h : Digits true t ds) : Digits afterDigit (c :: t) (d :: ds)
  | underscore {t : Text} {ds : List Nat} (h : Digits false t ds) :
      Digits true (.char '_' :: t) ds

/-- The number that digits stand for after those of a given number. -/
def numberFrom (value : Nat) (digits : List Nat) : Nat :=
  digits.foldl (fun n d => 10 * n + d) value

/-- What may stand before a numeral: nothing, a plus sign or a minus sign. -/
inductive Sign : (negative : Bool) → Text → Prop
  | none : Sign false []
  | plus : Sign false [.char '+']
  | minus : Sign true [.char '-']

/-- A text stands for an integer: apart from blanks around it, it is a sign and a numeral of not
too many digits. -/
def IsInteger (t : Text) (n : Int) : Prop :=
  ∃ negative sign numeral digits, trimBy isIntegerBlank t = sign ++ numeral ∧
    Sign negative sign ∧ Digits false numeral digits ∧ digits.length ≤ digitLimit ∧
    n = signed negative (numberFrom 0 digits)

theorem decimal?_underscore : (CodePoint.char '_').decimal? = none := by decide

theorem decimal?_plus : (CodePoint.char '+').decimal? = none := by decide

theorem decimal?_minus : (CodePoint.char '-').decimal? = none := by decide

/-- The reader counts the digits of a numeral and gives their number. -/
theorem readDigits_eq_some_iff {afterDigit : Bool} {count value count' value' : Nat} {t : Text} :
    readDigits afterDigit count value t = some (count', value') ↔
      ∃ digits, Digits afterDigit t digits ∧ count' = count + digits.length ∧
        value' = numberFrom value digits := by
  induction t generalizing afterDigit count value with
  | nil =>
      cases afterDigit with
      | false =>
          refine ⟨nofun, ?_⟩
          rintro ⟨digits, h, -⟩
          cases h
      | true =>
          constructor
          · intro h
            cases h
            exact ⟨[], .done, rfl, rfl⟩
          · rintro ⟨digits, h, rfl, rfl⟩
            cases h
            rfl
  | cons c t ih =>
      rw [readDigits]
      split
      · next hc =>
          subst hc
          cases afterDigit with
          | false =>
              refine ⟨nofun, ?_⟩
              rintro ⟨digits, h, -⟩
              cases h with
              | digit hc _ => cases decimal?_underscore.symm.trans hc
          | true =>
              rw [if_pos rfl, ih]
              constructor
              · rintro ⟨digits, h, hcount, hvalue⟩
                exact ⟨digits, .underscore h, hcount, hvalue⟩
              · rintro ⟨digits, h, hcount, hvalue⟩
                cases h with
                | digit hc _ => cases decimal?_underscore.symm.trans hc
                | underscore h => exact ⟨digits, h, hcount, hvalue⟩
      · next hc =>
          split
          · next d hd =>
              rw [ih]
              constructor
              · rintro ⟨digits, h, rfl, rfl⟩
                refine ⟨d :: digits, .digit hd h, ?_, rfl⟩
                rw [List.length_cons]
                omega
              · rintro ⟨digits, h, rfl, rfl⟩
                cases h with
                | @digit _ _ d' _ digits hd' h =>
                    cases hd.symm.trans hd'
                    refine ⟨digits, h, ?_, rfl⟩
                    rw [List.length_cons]
                    omega
                | underscore h => exact absurd rfl hc
          · next hd =>
              refine ⟨nofun, ?_⟩
              rintro ⟨digits, h, -⟩
              cases h with
              | digit hd' _ => cases hd.symm.trans hd'
              | underscore h => exact absurd rfl hc

/-- A numeral starts with a digit, so the sign before it is what is split off. -/
theorem splitSign_append {negative : Bool} {sign numeral : Text} {digits : List Nat}
    (hsign : Sign negative sign) (h : Digits false numeral digits) :
    splitSign (sign ++ numeral) = (negative, numeral) := by
  cases hsign with
  | plus => rfl
  | minus => rfl
  | none =>
      cases h with
      | @digit _ c d _ _ hc _ =>
          rw [List.nil_append, splitSign]
          · rintro rest ⟨⟩
            cases decimal?_plus.symm.trans hc
          · rintro rest ⟨⟩
            cases decimal?_minus.symm.trans hc

theorem exists_sign (t : Text) : ∃ sign, Sign (splitSign t).1 sign ∧ t = sign ++ (splitSign t).2 := by
  unfold splitSign
  split
  · exact ⟨_, .plus, rfl⟩
  · exact ⟨_, .minus, rfl⟩
  · exact ⟨_, .none, rfl⟩

theorem toInt?_eq_some_iff {t : Text} {n : Int} : toInt? t = some n ↔ IsInteger t n := by
  constructor
  · intro h
    obtain ⟨sign, hsign, htext⟩ := exists_sign (trimBy isIntegerBlank t)
    unfold toInt? at h
    dsimp only at h
    split at h
    · next count value hread =>
        obtain ⟨digits, hdigits, rfl, rfl⟩ := readDigits_eq_some_iff.mp hread
        obtain ⟨hlimit, hn⟩ := Option.ite_none_right_eq_some.mp h
        rw [Nat.zero_add] at hlimit
        exact ⟨_, sign, _, digits, htext, hsign, hdigits, hlimit, (Option.some.inj hn).symm⟩
    · cases h
  · rintro ⟨negative, sign, numeral, digits, htext, hsign, hdigits, hlimit, rfl⟩
    have hread : readDigits false 0 0 numeral = some (digits.length, numberFrom 0 digits) :=
      readDigits_eq_some_iff.mpr ⟨digits, hdigits, (Nat.zero_add _).symm, rfl⟩
    simp only [toInt?, htext, splitSign_append hsign hdigits, hread, if_pos hlimit]

end SealedPost.Text
