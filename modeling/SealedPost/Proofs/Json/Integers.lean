import SealedPost.Json.Reader
import SealedPost.Proofs.Attempt
import SealedPost.Text.Integer
import Mathlib.Algebra.Order.Ring.Nat
import Mathlib.Data.List.Basic

/-!
# How long the integers of a document are

The lexer counts the digits of a number as it reads them, so an integer is below the power of ten
with as many zeros. A reader that limits the digits of integers therefore gives documents in
which each integer, at any depth, can be written within that limit.
-/

namespace SealedPost.Json

mutual

/-- The integers of a document, in the order in which they are written. -/
def integers : Json → List Int
  | .int n => [n]
  | .arr items => itemIntegers items
  | .obj members => memberIntegers members
  | _ => []

/-- The integers of the items of an array. -/
def itemIntegers : List Json → List Int
  | [] => []
  | v :: rest => integers v ++ itemIntegers rest

/-- The integers of the members of an object. -/
def memberIntegers : List (Text × Json) → List Int
  | [] => []
  | (_, v) :: rest => integers v ++ memberIntegers rest

end

/-- Holds of a document whose integers have so many digits at most. -/
def DigitsWithin (limit : Nat) (v : Json) : Prop := ∀ n ∈ v.integers, n.natAbs < 10 ^ limit

instance (limit : Nat) (v : Json) : Decidable (DigitsWithin limit v) :=
  inferInstanceAs (Decidable (∀ n ∈ v.integers, n.natAbs < 10 ^ limit))

theorem mem_itemIntegers {items : List Json} {n : Int} :
    n ∈ itemIntegers items ↔ ∃ v ∈ items, n ∈ v.integers := by
  induction items with
  | nil => simp [itemIntegers]
  | cons v rest ih => simp [itemIntegers, ih]

theorem mem_memberIntegers {members : List (Text × Json)} {n : Int} :
    n ∈ memberIntegers members ↔ ∃ m ∈ members, n ∈ m.2.integers := by
  induction members with
  | nil => simp [memberIntegers]
  | cons m rest ih => simp [memberIntegers, ih]

section Documents

variable {limit : Nat}

theorem DigitsWithin.of_integers_eq_nil {v : Json} (h : v.integers = []) :
    v.DigitsWithin limit := by
  intro n hn
  rw [h] at hn
  cases hn

theorem digitsWithin_arr {items : List Json} :
    (Json.arr items).DigitsWithin limit ↔ ∀ v ∈ items, v.DigitsWithin limit := by
  unfold DigitsWithin
  simp only [integers, mem_itemIntegers]
  exact ⟨fun h v hv n hn => h n ⟨v, hv, hn⟩, fun h n ⟨v, hv, hn⟩ => h v hv n hn⟩

theorem digitsWithin_obj {members : List (Text × Json)} :
    (Json.obj members).DigitsWithin limit ↔ ∀ m ∈ members, m.2.DigitsWithin limit := by
  unfold DigitsWithin
  simp only [integers, mem_memberIntegers]
  exact ⟨fun h m hm n hn => h n ⟨m, hm, hn⟩, fun h n ⟨m, hm, hn⟩ => h m hm n hn⟩

theorem digitsWithin_member? {name : Text} {members : List (Text × Json)} {v : Json}
    (hmembers : (Json.obj members).DigitsWithin limit) (h : member? name members = some v) :
    v.DigitsWithin limit := by
  rw [digitsWithin_obj] at hmembers
  induction members with
  | nil => cases h
  | cons m rest ih =>
      obtain ⟨hm, hrest⟩ := List.forall_mem_cons.mp hmembers
      rw [member?] at h
      split at h
      · cases h
        exact hm
      · exact ih hrest h

theorem digitsWithin_setMember {name : Text} {v : Json} {members : List (Text × Json)}
    (hv : v.DigitsWithin limit) (h : ∀ m ∈ members, m.2.DigitsWithin limit) :
    ∀ m ∈ setMember name v members, m.2.DigitsWithin limit := by
  induction members with
  | nil =>
      intro m hm
      cases List.mem_singleton.mp hm
      exact hv
  | cons k rest ih =>
      obtain ⟨hk, hrest⟩ := List.forall_mem_cons.mp h
      rw [setMember]
      split
      · exact List.forall_mem_cons.mpr ⟨hv, hrest⟩
      · exact List.forall_mem_cons.mpr ⟨hk, ih hrest⟩

end Documents

theorem lt_ten_of_asciiDigit? {c : CodePoint} {d : Nat} (h : c.asciiDigit? = some d) :
    d < 10 := by
  cases c with
  | surrogate unit => cases h
  | char c =>
      obtain ⟨⟨-, hhigh⟩, hd⟩ := Option.ite_none_right_eq_some.mp h
      have hhigh : c.toNat ≤ 57 := hhigh
      have hd := Option.some.inj hd
      omega

/-- A number is below the power of ten of its count of digits; a word has no number in it. -/
def Token.Counted : Token → Prop
  | .integer _ digits value => value < 10 ^ digits
  | .word v => v.integers = []
  | _ => True

namespace Lexer

/-- The digits that were read so far are as many as counted. -/
def Mode.Counted : Mode → Prop
  | .inNumber _ _ _ n => n.digits < 10 ^ (n.wholeDigits + n.fractionDigits)
  | .inWord _ _ v => v.integers = []
  | _ => True

/-- What a step of the lexer gives keeps the count. -/
def Counted (result : List Lexeme × Mode) : Prop :=
  (∀ l ∈ result.1, l.token.Counted) ∧ result.2.Counted

variable {start mark position : Nat} {phase : NumberPhase} {n : Numeral} {c : CodePoint}

theorem Counted.of_lexeme {token : Token} {mode : Mode} (htoken : token.Counted)
    (hmode : mode.Counted) : Counted ([⟨start, token⟩], mode) :=
  ⟨List.forall_mem_singleton.mpr htoken, hmode⟩

theorem Counted.of_mode {mode : Mode} (h : mode.Counted) : Counted ([], mode) :=
  ⟨List.forall_mem_nil _, h⟩

theorem integers_of_wordAt {ch : Char} {remaining : List Char} {v : Json}
    (h : wordAt ch = some (remaining, v)) : v.integers = [] := by
  unfold wordAt at h
  split at h <;> cases h <;> rfl

theorem counted_begin (position : Nat) (c : CodePoint) : Counted (begin position c) := by
  cases c with
  | surrogate unit => exact .of_lexeme trivial trivial
  | char ch =>
      unfold begin
      dsimp only
      split
      · exact .of_mode trivial
      · split
        · exact .of_lexeme trivial trivial
        · exact .of_lexeme trivial trivial
        · exact .of_lexeme trivial trivial
        · exact .of_lexeme trivial trivial
        · exact .of_lexeme trivial trivial
        · exact .of_lexeme trivial trivial
        · exact .of_mode trivial
        · exact .of_mode Nat.zero_lt_one
        · split
          · next d hd =>
              have hten := lt_ten_of_asciiDigit? hd
              refine .of_mode ?_
              simpa only [Mode.Counted, Nat.add_zero, Nat.pow_one] using hten
          · split
            · next remaining v hword => exact .of_mode (integers_of_wordAt hword)
            · exact .of_lexeme trivial trivial

theorem counted_token (h : n.digits < 10 ^ (n.wholeDigits + n.fractionDigits))
    (hasExponent : Bool) : (n.token hasExponent).Counted := by
  unfold Numeral.token
  split
  · next hinteger =>
      rw [hinteger.1, Nat.add_zero] at h
      exact h
  · trivial

theorem counted_endNumber (h : n.digits < 10 ^ (n.wholeDigits + n.fractionDigits)) :
    Counted (endNumber start phase mark n) := by
  have hbroken : Counted ([⟨start, n.token false⟩, ⟨mark, .foreign⟩], .stopped) := by
    refine ⟨List.forall_mem_cons.mpr ⟨counted_token h false, ?_⟩, trivial⟩
    exact List.forall_mem_singleton.mpr trivial
  cases phase with
  | minus => exact .of_lexeme trivial trivial
  | leadingZero => exact .of_lexeme (counted_token h false) trivial
  | whole => exact .of_lexeme (counted_token h false) trivial
  | point => exact hbroken
  | fraction => exact .of_lexeme (counted_token h false) trivial
  | exponentMark => exact hbroken
  | exponentSign => exact hbroken
  | exponent => exact .of_lexeme (counted_token h true) trivial

theorem counted_afterNumber (h : n.digits < 10 ^ (n.wholeDigits + n.fractionDigits)) :
    Counted (afterNumber start phase mark n position c) := by
  have hend : Counted (endNumber start phase mark n) := counted_endNumber h
  have hbegin := counted_begin position c
  unfold afterNumber
  split
  · next out hout =>
      rw [hout] at hend
      refine ⟨?_, hbegin.2⟩
      exact List.forall_mem_append.mpr ⟨hend.1, hbegin.1⟩
  · exact hend

/-- A further digit makes the number ten times as large at most, and is counted. -/
theorem counted_push (h : n.digits < 10 ^ (n.wholeDigits + n.fractionDigits)) {d : Nat}
    (hd : d < 10) :
    (n.push phase d).digits <
      10 ^ ((n.push phase d).wholeDigits + (n.push phase d).fractionDigits) := by
  have hwhole : 10 * n.digits + d < 10 ^ (n.wholeDigits + 1 + n.fractionDigits) := by
    rw [Nat.add_right_comm, Nat.pow_succ]
    omega
  have hfraction : 10 * n.digits + d < 10 ^ (n.wholeDigits + (n.fractionDigits + 1)) := by
    rw [← Nat.add_assoc, Nat.pow_succ]
    omega
  cases phase with
  | minus => exact hwhole
  | leadingZero => exact hwhole
  | whole => exact hwhole
  | point => exact hfraction
  | fraction => exact hfraction
  | exponentMark => exact h
  | exponentSign => exact h
  | exponent => exact h

theorem counted_stepNumber (h : n.digits < 10 ^ (n.wholeDigits + n.fractionDigits)) :
    Counted (stepNumber start phase mark n position c) := by
  unfold stepNumber
  split
  · next d hd =>
      split
      · exact .of_mode (counted_push h (lt_ten_of_asciiDigit? hd))
      · exact counted_afterNumber h
  · split
    · exact .of_mode rfl
    all_goals first
      | exact .of_mode h
      | exact counted_afterNumber h

theorem counted_stepString {phase : StringPhase} {part : Partial} :
    Counted (stepString start phase part position c) := by
  unfold stepString breakString
  repeat' split
  all_goals first
    | exact .of_mode trivial
    | exact .of_lexeme trivial trivial

/-- One code point keeps the count. -/
theorem counted_step {mode : Mode} (h : mode.Counted) (position : Nat) (c : CodePoint) :
    Counted (step mode position c) := by
  cases mode with
  | between => exact counted_begin position c
  | inString start phase part => exact counted_stepString
  | inNumber start phase mark n => exact counted_stepNumber h
  | inWord start remaining v =>
      unfold step
      dsimp only
      split
      · exact .of_lexeme trivial trivial
      · split
        · split
          · exact .of_lexeme h trivial
          · exact .of_mode h
        · exact .of_lexeme trivial trivial
  | stopped => exact .of_mode trivial

theorem counted_finish {mode : Mode} (h : mode.Counted) : ∀ l ∈ finish mode, l.token.Counted := by
  unfold finish
  split
  · exact List.forall_mem_nil _
  · exact List.forall_mem_nil _
  · exact List.forall_mem_singleton.mpr trivial
  · exact List.forall_mem_singleton.mpr trivial
  · exact List.forall_mem_singleton.mpr trivial
  · exact (counted_endNumber h).1
  · exact List.forall_mem_singleton.mpr trivial

/-- The lexemes of a text are counted. -/
theorem counted_run {mode : Mode} (h : mode.Counted) (position : Nat) (t : Text) :
    ∀ l ∈ run mode position t, l.token.Counted := by
  induction t generalizing mode position with
  | nil => exact counted_finish h
  | cons c rest ih =>
      obtain ⟨hout, hnext⟩ := counted_step h position c
      rw [run]
      exact List.forall_mem_append.mpr ⟨hout, ih hnext (position + 1)⟩

end Lexer

namespace Reader

variable {d : Dialect} {limit : Nat} {s s' : State} {l : Lexeme}

/-- What an open array or object holds so far has its digits within a limit. -/
def Frame.DigitsWithin (limit : Nat) : Frame → Prop
  | .array reversed => ∀ v ∈ reversed, v.DigitsWithin limit
  | .object members _ => ∀ m ∈ members, m.2.DigitsWithin limit

/-- What was read so far has its digits within a limit. -/
def State.DigitsWithin (limit : Nat) : State → Prop
  | .value _ stack => ∀ f ∈ stack, f.DigitsWithin limit
  | .name _ members stack =>
    (∀ m ∈ members, m.2.DigitsWithin limit) ∧ ∀ f ∈ stack, f.DigitsWithin limit
  | .colon _ members stack =>
    (∀ m ∈ members, m.2.DigitsWithin limit) ∧ ∀ f ∈ stack, f.DigitsWithin limit
  | .after v stack => v.DigitsWithin limit ∧ ∀ f ∈ stack, f.DigitsWithin limit

theorem eq_of_opened {depth : Nat} {next : State} (h : opened d depth next = .ok s) :
    s = next := by
  unfold opened at h
  split at h
  · split at h
    · cases h
      rfl
    · cases h
  · cases h
    rfl

theorem eq_of_takeWord {depth : Nat} {word v : Json} (h : takeWord d depth word = .ok v) :
    v = word := by
  unfold takeWord at h
  split at h
  · split at h
    · cases h
      rfl
    · cases h
  · cases h
    rfl

theorem takeNumber_eq_ok {limit? : Option Nat} {digits : Nat} {number v : Json}
    (h : takeNumber limit? digits number = .ok v) :
    v = number ∧ ∀ limit, limit? = some limit → digits ≤ limit := by
  unfold takeNumber at h
  split at h
  · split at h
    · next hdigits =>
        cases h
        refine ⟨rfl, ?_⟩
        rintro _ ⟨⟩
        exact hdigits
    · cases h
  · cases h
    exact ⟨rfl, nofun⟩

/-- The limit on the digits of an integer is one on its size. -/
theorem digitsWithin_int {negative : Bool} {digits value : Nat} (hvalue : value < 10 ^ digits)
    (hdigits : digits ≤ limit) :
    (Json.int (if negative then -(value : Int) else value)).DigitsWithin limit := by
  intro n hn
  cases List.mem_singleton.mp hn
  have habs : (if negative then -(value : Int) else value).natAbs = value := by
    split <;> omega
  rw [habs]
  exact Nat.lt_of_lt_of_le hvalue (Nat.pow_le_pow_right (by decide) hdigits)

theorem digitsWithin_stepValue (hd : d.digitLimit = some limit) (hl : l.token.Counted)
    {fresh : Bool} {stack : List Frame} (hstack : ∀ f ∈ stack, f.DigitsWithin limit)
    (h : stepValue d fresh stack l = .ok s) : s.DigitsWithin limit := by
  unfold stepValue at h
  split at h
  · rw [eq_of_opened h]
    exact List.forall_mem_cons.mpr ⟨List.forall_mem_nil _, hstack⟩
  · rw [eq_of_opened h]
    exact ⟨List.forall_mem_nil _, hstack⟩
  · next word hword =>
      obtain ⟨v, hv, rfl⟩ := Attempt.map_eq_ok_iff.mp h
      cases eq_of_takeWord hv
      rw [hword] at hl
      exact ⟨.of_integers_eq_nil hl, hstack⟩
  · next negative digits value hinteger =>
      obtain ⟨v, hv, rfl⟩ := Attempt.map_eq_ok_iff.mp h
      obtain ⟨rfl, hlimit⟩ := takeNumber_eq_ok hv
      rw [hinteger] at hl
      exact ⟨digitsWithin_int hl (hlimit limit hd), hstack⟩
  · obtain ⟨v, hv, rfl⟩ := Attempt.map_eq_ok_iff.mp h
    obtain ⟨rfl, -⟩ := takeNumber_eq_ok hv
    exact ⟨.of_integers_eq_nil rfl, hstack⟩
  · obtain ⟨t, -, rfl⟩ := Attempt.map_eq_ok_iff.mp h
    exact ⟨.of_integers_eq_nil rfl, hstack⟩
  · cases h
  · split at h
    · cases h
      exact ⟨.of_integers_eq_nil rfl, fun f hf => hstack f (List.mem_of_mem_drop hf)⟩
    · cases h
  · cases h

theorem digitsWithin_stepName {fresh : Bool} {members : List (Text × Json)} {stack : List Frame}
    (hmembers : ∀ m ∈ members, m.2.DigitsWithin limit)
    (hstack : ∀ f ∈ stack, f.DigitsWithin limit) (h : stepName d fresh members stack l = .ok s) :
    s.DigitsWithin limit := by
  unfold stepName at h
  split at h
  · obtain ⟨t, -, rfl⟩ := Attempt.map_eq_ok_iff.mp h
    exact ⟨hmembers, hstack⟩
  · cases h
  · split at h
    · cases h
      exact ⟨digitsWithin_obj.mpr hmembers, hstack⟩
    · cases h
  · cases h

theorem digitsWithin_stepAfter {v : Json} {stack : List Frame} (hv : v.DigitsWithin limit)
    (hstack : ∀ f ∈ stack, f.DigitsWithin limit) (h : stepAfter v stack l = .ok s) :
    s.DigitsWithin limit := by
  unfold stepAfter at h
  split at h
  · cases h
  · next reversed rest =>
      obtain ⟨hreversed, hrest⟩ := List.forall_mem_cons.mp hstack
      have hitems : ∀ w ∈ v :: reversed, w.DigitsWithin limit :=
        List.forall_mem_cons.mpr ⟨hv, hreversed⟩
      split at h
      · cases h
        exact List.forall_mem_cons.mpr ⟨hitems, hrest⟩
      · cases h
        refine ⟨digitsWithin_arr.mpr ?_, hrest⟩
        intro w hw
        exact hitems w (List.mem_reverse.mp hw)
      · cases h
  · next members name rest =>
      obtain ⟨hmembers, hrest⟩ := List.forall_mem_cons.mp hstack
      have hset : ∀ m ∈ setMember name v members, m.2.DigitsWithin limit :=
        digitsWithin_setMember hv hmembers
      split at h
      · cases h
        exact ⟨hset, hrest⟩
      · cases h
        exact ⟨digitsWithin_obj.mpr hset, hrest⟩
      · cases h

/-- One lexeme keeps the digits within the limit of the dialect. -/
theorem digitsWithin_step (hd : d.digitLimit = some limit) (hl : l.token.Counted)
    (hs : s.DigitsWithin limit) (h : step d s l = .ok s') : s'.DigitsWithin limit := by
  cases s with
  | value fresh stack => exact digitsWithin_stepValue hd hl hs h
  | name fresh members stack => exact digitsWithin_stepName hs.1 hs.2 h
  | colon name members stack =>
      unfold step at h
      dsimp only at h
      split at h
      · cases h
        exact List.forall_mem_cons.mpr ⟨hs.1, hs.2⟩
      · cases h
  | after v stack => exact digitsWithin_stepAfter hs.1 hs.2 h

theorem digitsWithin_run (hd : d.digitLimit = some limit) {length : Nat} {ls : List Lexeme}
    {v : Json} (hls : ∀ l ∈ ls, l.token.Counted) (hs : s.DigitsWithin limit)
    (h : run d length s ls = .ok v) : v.DigitsWithin limit := by
  induction ls generalizing s with
  | nil =>
      have h := Attempt.mapError_eq_ok_iff.mp h
      unfold finish at h
      split at h
      · cases h
      · cases h
      · cases h
      · cases h
        exact hs.1
      · cases h
  | cons l rest ih =>
      obtain ⟨hl, hrest⟩ := List.forall_mem_cons.mp hls
      unfold run at h
      split at h
      · next next hnext => exact ih hrest (digitsWithin_step hd hl hs hnext) h
      · cases h

end Reader

/-- A document that a dialect with a limit on digits takes has its digits within that limit. -/
theorem digitsWithin_of_read {d : Dialect} {limit : Nat} (hd : d.digitLimit = some limit)
    {t : Text} {v : Json} (h : read d t = .ok v) : v.DigitsWithin limit := by
  have hlexer : Lexer.Mode.between.Counted := trivial
  have hreader : (Reader.State.value false []).DigitsWithin limit := List.forall_mem_nil _
  exact Reader.digitsWithin_run hd (Lexer.counted_run hlexer 0 t) hreader h

theorem digitsWithin_of_readDocument {bytes : Bytes} {v : Json}
    (h : readDocument bytes = .ok v) : v.DigitsWithin Text.digitLimit := by
  unfold readDocument readDocumentIn at h
  split at h
  · cases h
  · exact digitsWithin_of_read rfl (Attempt.mapError_eq_ok_iff.mp h)

end SealedPost.Json
