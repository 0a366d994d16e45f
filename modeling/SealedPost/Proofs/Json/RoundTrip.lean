import SealedPost.Json.Reader
import SealedPost.Json.Writer
import SealedPost.Proofs.Json.Strings

/-!
# JSON reads back

A document of strings, arrays and objects is what its text reads as, in every style that sets
neighbours apart by a comma, a colon and blanks, and in every dialect that allows its depth. A
reader that stands where a value may start takes the text of a value and stands after it; the
induction is on the value, inside it on the items or members, and nothing is said about what
stands before or after the text.
-/

namespace SealedPost
namespace Json

/-- Documents of strings without lone surrogates, arrays and objects with distinct names, nested
at most as deep as a number says. -/
inductive Plain : Nat → Json → Prop
  | str {n : Nat} {t : Text} (ht : t.isEncodable = true) : Plain n (.str t)
  | arr {n : Nat} {items : List Json} (h : ∀ v ∈ items, Plain n v) : Plain (n + 1) (.arr items)
  | obj {n : Nat} {members : List (Text × Json)} (hd : (members.map Prod.fst).Nodup)
      (hn : ∀ m ∈ members, m.1.isEncodable = true)
      (h : ∀ m ∈ members, Plain n m.2) : Plain (n + 1) (.obj members)

/-- An object is plain if its members, taken one by one, have plain names and values. -/
theorem Plain.of_forall {depth : Nat} {members : List (Text × Json)}
    (hd : (members.map Prod.fst).Nodup)
    (h : members.Forall fun m => m.1.isEncodable = true ∧ Plain depth m.2) :
    Plain (depth + 1) (.obj members) := by
  rw [List.forall_iff_forall_mem] at h
  exact .obj hd (fun m hm => (h m hm).1) fun m hm => (h m hm).2

theorem Plain.map {α : Type} {depth : Nat} {written : α → Json} (h : ∀ a, Plain depth (written a))
    (items : List α) : Plain (depth + 1) (.arr (items.map written)) := by
  refine .arr fun v hv => ?_
  obtain ⟨a, -, rfl⟩ := List.mem_map.mp hv
  exact h a

theorem Plain.pair {depth : Nat} {v w : Json} (hv : Plain depth v) (hw : Plain depth w) :
    Plain (depth + 1) (.arr [v, w]) := by
  refine .arr fun x hx => ?_
  rcases List.mem_pair.mp hx with rfl | rfl
  · exact hv
  · exact hw

/-- A text of blanks, which the lexer passes over between lexemes. -/
def Blank (t : Text) : Prop := ∀ c ∈ t, ∃ b, c = .char b ∧ Lexer.isBlank b = true

theorem isEncodable_of_blank {t : Text} (h : Blank t) : t.isEncodable = true := by
  rw [Text.isEncodable, List.all_eq_true]
  intro c hc
  obtain ⟨b, rfl, -⟩ := h c hc
  rfl

/-- A separator is a mark with blanks after it at most. -/
def Separates (mark : Char) (separator : Text) : Prop :=
  ∃ blanks, Blank blanks ∧ separator = .char mark :: blanks

theorem isEncodable_of_separates {mark : Char} {separator : Text} (h : Separates mark separator) :
    separator.isEncodable = true := by
  obtain ⟨blanks, hblanks, rfl⟩ := h
  exact isEncodable_cons (isEncodable_of_blank hblanks)

/-- A style that sets items apart by a comma and names from values by a colon. -/
structure Style.Legible (s : Style) : Prop where
  comma : Separates ',' s.itemSeparator
  colon : Separates ':' s.nameSeparator

theorem Style.legible_compact : Style.compact.Legible where
  comma := ⟨[], List.forall_mem_nil _, rfl⟩
  colon := ⟨[], List.forall_mem_nil _, rfl⟩

theorem Style.legible_spaced : Style.spaced.Legible := by
  have hspace : Blank [.char ' '] := by
    intro c hc
    exact ⟨' ', List.mem_singleton.mp hc, rfl⟩
  exact ⟨⟨_, hspace, rfl⟩, ⟨_, hspace, rfl⟩⟩

/-- A dialect admits a depth if it is not past its limit. -/
def Dialect.Admits (d : Dialect) (depth : Nat) : Prop :=
  ∀ limit, d.depthLimit = some limit → depth ≤ limit

theorem Dialect.admits_of_le {d : Dialect} {depth limit : Nat} (h : d.depthLimit = some limit)
    (hdepth : depth ≤ limit) : d.Admits depth := by
  intro limit' hlimit
  cases h.symm.trans hlimit
  exact hdepth

theorem Dialect.admits_lenient (depth : Nat) : Dialect.lenient.Admits depth := nofun

section Style

variable {s : Style}

theorem isEncodable_writeItems (hs : s.Legible) {items : List Json}
    (h : ∀ v ∈ items, (write s v).isEncodable = true) :
    (writeItems s items).isEncodable = true := by
  induction items with
  | nil => rfl
  | cons v items ih =>
      cases items with
      | nil => exact h v List.mem_cons_self
      | cons w items =>
          exact isEncodable_append
            (isEncodable_append (h v List.mem_cons_self) (isEncodable_of_separates hs.comma))
            (ih fun x hx => h x (List.mem_cons_of_mem _ hx))

theorem isEncodable_writeMembers (hs : s.Legible) {members : List (Text × Json)}
    (hn : ∀ m ∈ members, m.1.isEncodable = true)
    (h : ∀ m ∈ members, (write s m.2).isEncodable = true) :
    (writeMembers s members).isEncodable = true := by
  induction members with
  | nil => rfl
  | cons m members ih =>
      have hm : (writeString s m.1 ++ s.nameSeparator ++ write s m.2).isEncodable = true :=
        isEncodable_append
          (isEncodable_append (isEncodable_writeString s (hn m List.mem_cons_self))
            (isEncodable_of_separates hs.colon))
          (h m List.mem_cons_self)
      cases members with
      | nil => exact hm
      | cons k members =>
          exact isEncodable_append (isEncodable_append hm (isEncodable_of_separates hs.comma))
            (ih (fun x hx => hn x (List.mem_cons_of_mem _ hx))
              fun x hx => h x (List.mem_cons_of_mem _ hx))

/-- The text of a plain document can be encoded. -/
theorem isEncodable_write (hs : s.Legible) {depth : Nat} {v : Json} (hv : Plain depth v) :
    (write s v).isEncodable = true := by
  induction hv with
  | str ht => exact isEncodable_writeString s ht
  | arr h ih => exact isEncodable_append (isEncodable_cons (isEncodable_writeItems hs ih)) rfl
  | obj hd hn h ih =>
      exact isEncodable_append (isEncodable_cons (isEncodable_writeMembers hs hn ih)) rfl

end Style

section Strings

theorem exists_of_mem_itemStrings {items : List Json} {t : Text} (h : t ∈ itemStrings items) :
    ∃ v ∈ items, t ∈ strings v := by
  induction items with
  | nil => cases h
  | cons v items ih =>
      rw [itemStrings, List.mem_append] at h
      rcases h with hv | hrest
      · exact ⟨v, List.mem_cons_self, hv⟩
      · obtain ⟨w, hw, ht⟩ := ih hrest
        exact ⟨w, List.mem_cons_of_mem _ hw, ht⟩

theorem exists_of_mem_memberStrings {members : List (Text × Json)} {t : Text}
    (h : t ∈ memberStrings members) : ∃ m ∈ members, t = m.1 ∨ t ∈ strings m.2 := by
  induction members with
  | nil => cases h
  | cons m members ih =>
      rw [memberStrings, List.mem_append, List.mem_cons] at h
      rcases h with hm | hrest
      · exact ⟨m, List.mem_cons_self, hm⟩
      · obtain ⟨k, hk, ht⟩ := ih hrest
        exact ⟨k, List.mem_cons_of_mem _ hk, ht⟩

/-- No string of a plain document, name or value, holds a lone surrogate. -/
theorem isEncodable_of_mem_strings {depth : Nat} {v : Json} (hv : Plain depth v) {t : Text}
    (h : t ∈ strings v) : t.isEncodable = true := by
  induction hv with
  | str ht => exact List.mem_singleton.mp h ▸ ht
  | arr _ ih =>
      obtain ⟨v, hv, ht⟩ := exists_of_mem_itemStrings h
      exact ih v hv ht
  | obj _ hn _ ih =>
      obtain ⟨m, hm, rfl | ht⟩ := exists_of_mem_memberStrings h
      · exact hn m hm
      · exact ih m hm ht

/-- A plain document is not refused where it is to be encoded. -/
theorem writeEncodable_of_plain {depth : Nat} {v : Json} (hv : Plain depth v) :
    writeEncodable v = .ok (writeCompact v) := by
  have hnone : (strings v).findSome? (Text.surrogateRun? CodePoint.isSurrogate) = none := by
    refine List.findSome?_eq_none_iff.mpr fun t ht => Text.surrogateRun?_eq_none_iff.mpr ?_
    intro c hc
    have hencodable := isEncodable_of_mem_strings hv ht
    rw [Text.isEncodable, List.all_eq_true] at hencodable
    exact Bool.not_eq_true' _ ▸ hencodable c hc
  rw [writeEncodable, hnone]

end Strings

namespace Lexer

/-- Blanks give no lexemes. -/
theorem run_blanks {blanks : Text} (h : Blank blanks) (position : Nat) (rest : Text) :
    run .between position (blanks ++ rest) = run .between (position + blanks.length) rest := by
  induction blanks generalizing position with
  | nil => rfl
  | cons c blanks ih =>
      obtain ⟨⟨b, rfl, hb⟩, hrest⟩ := List.forall_mem_cons.mp h
      have hstep : step .between position (.char b) = ([], .between) := by
        simp only [step, begin, hb, if_true]
      rw [List.cons_append, run_cons_of_step hstep, ih hrest, List.length_cons]
      congr 1
      omega

/-- A mark of punctuation is one lexeme. -/
theorem run_mark {c : Char} {token : Token}
    (h : ∀ position, begin position (.char c) = ([⟨position, token⟩], .between))
    (position : Nat) (rest : Text) :
    run .between position (.char c :: rest) =
      ⟨position, token⟩ :: run .between (position + 1) rest := by
  rw [run, step, h]
  rfl

/-- A separator is one lexeme. -/
theorem run_separator {mark : Char} {token : Token}
    (hmark : ∀ position, begin position (.char mark) = ([⟨position, token⟩], .between))
    {separator : Text} (h : Separates mark separator) (position : Nat) (rest : Text) :
    ∃ q, run .between position (separator ++ rest) = ⟨position, token⟩ :: run .between q rest := by
  obtain ⟨blanks, hblanks, rfl⟩ := h
  refine ⟨position + 1 + blanks.length, ?_⟩
  rw [List.cons_append, run_mark hmark, run_blanks hblanks]

end Lexer

namespace Reader

theorem run_cons_of_step {d : Dialect} {length : Nat} {s next : State} {l : Lexeme}
    (h : step d s l = .ok next) (rest : List Lexeme) :
    run d length s (l :: rest) = run d length next rest := by
  rw [run, h]

/-- A reader that stands where a value may start, with room for a depth, takes a text as a
value and stands after it. -/
def Takes (d : Dialect) (depth : Nat) (text : Text) (v : Json) : Prop :=
  ∀ (length position : Nat) (fresh : Bool) (stack : List Frame) (rest : Text),
    d.Admits (stack.length + depth) →
    ∃ q, run d length (.value fresh stack) (Lexer.run .between position (text ++ rest)) =
      run d length (.after v stack) (Lexer.run .between q rest)

theorem takeString_of_isEncodable (d : Dialect) {t : Text} (h : t.isEncodable = true) :
    takeString d t = .ok t := by
  rw [takeString, h, Bool.or_true, if_pos rfl]

theorem opened_of_admits {d : Dialect} {depth : Nat} (h : d.Admits (depth + 1)) (next : State) :
    opened d depth next = .ok next := by
  unfold opened
  split
  · rename_i limit hlimit
    rw [if_pos (Nat.lt_of_succ_le (h limit hlimit))]
  · rfl

theorem admits_mono {d : Dialect} {a b : Nat} (h : d.Admits b) (hab : a ≤ b) :
    d.Admits a :=
  fun limit hlimit => Nat.le_trans hab (h limit hlimit)

variable {s : Style} {d : Dialect} {depth : Nat}

theorem takes_str {t : Text} (ht : t.isEncodable = true) :
    Takes d depth (write s (.str t)) (.str t) := by
  intro length position fresh stack rest _
  obtain ⟨q, hq⟩ := Lexer.run_writeString s ht position rest
  refine ⟨q, ?_⟩
  rw [write, hq]
  apply run_cons_of_step
  simp only [step, stepValue, takeString_of_isEncodable d ht]
  rfl

/-- The items of an open array, of which there is at least one, up to its end. -/
theorem run_items (hs : s.Legible) {v : Json} {items : List Json}
    (h : ∀ w ∈ v :: items, Takes d depth (write s w) w) (length position : Nat)
    (fresh : Bool) (reversed : List Json) (stack : List Frame) (rest : Text)
    (hroom : d.Admits (stack.length + 1 + depth)) :
    ∃ q, run d length (.value fresh (.array reversed :: stack))
        (Lexer.run .between position (writeItems s (v :: items) ++ .char ']' :: rest)) =
      run d length (.after (.arr (reversed.reverse ++ v :: items)) stack)
        (Lexer.run .between q rest) := by
  induction items generalizing v position fresh reversed with
  | nil =>
      obtain ⟨q, hq⟩ := h v List.mem_cons_self length position fresh (.array reversed :: stack)
        (.char ']' :: rest) hroom
      refine ⟨q + 1, ?_⟩
      rw [writeItems, hq, Lexer.run_mark (fun _ => rfl)]
      apply run_cons_of_step
      simp [step, stepAfter]
  | cons w items ih =>
      let later := writeItems s (w :: items) ++ .char ']' :: rest
      obtain ⟨p, hp⟩ := h v List.mem_cons_self length position fresh (.array reversed :: stack)
        (s.itemSeparator ++ later) hroom
      obtain ⟨q, hq⟩ := Lexer.run_separator (fun _ => rfl) hs.comma p later
      obtain ⟨r, hr⟩ := ih (fun x hx => h x (List.mem_cons_of_mem _ hx)) q false (v :: reversed)
      refine ⟨r, ?_⟩
      have htext : writeItems s (v :: w :: items) ++ .char ']' :: rest =
          write s v ++ (s.itemSeparator ++ later) := by
        simp [writeItems, later]
      rw [htext, hp, hq, run_cons_of_step rfl, hr]
      simp

theorem takes_arr (hs : s.Legible) {items : List Json}
    (h : ∀ v ∈ items, Takes d depth (write s v) v) :
    Takes d (depth + 1) (write s (.arr items)) (.arr items) := by
  intro length position fresh stack rest hroom
  have hopen : step d (.value fresh stack) ⟨position, .openArray⟩ =
      .ok (.value true (.array [] :: stack)) :=
    opened_of_admits (admits_mono hroom (by omega)) _
  have htext : write s (.arr items) ++ rest =
      .char '[' :: (writeItems s items ++ .char ']' :: rest) := by
    simp [write]
  rw [htext, Lexer.run_mark (fun _ => rfl), run_cons_of_step hopen]
  cases items with
  | nil =>
      refine ⟨position + 1 + 1, ?_⟩
      rw [writeItems, List.nil_append, Lexer.run_mark (fun _ => rfl)]
      exact run_cons_of_step rfl _
  | cons v items =>
      exact run_items hs h length (position + 1) true [] stack rest
        (admits_mono hroom (by omega))

theorem not_mem_of_nodup {before after : List (Text × Json)} {m : Text × Json}
    (hd : ((before ++ m :: after).map Prod.fst).Nodup) : m.1 ∉ before.map Prod.fst := by
  rw [List.map_append, List.map_cons, List.nodup_append] at hd
  exact fun hmem => hd.2.2 _ hmem _ List.mem_cons_self rfl

theorem setMember_of_not_mem {name : Text} {members : List (Text × Json)}
    (h : name ∉ members.map Prod.fst) (v : Json) :
    setMember name v members = members ++ [(name, v)] := by
  induction members with
  | nil => rfl
  | cons m members ih =>
      rw [List.map_cons, List.mem_cons, not_or] at h
      rw [setMember, if_neg (Ne.symm h.1), ih h.2, List.cons_append]

/-- One member of an open object: its name, a colon and its value. -/
theorem run_member (hs : s.Legible) {m : Text × Json} (hn : m.1.isEncodable = true)
    (h : Takes d depth (write s m.2) m.2) (length position : Nat) (fresh : Bool)
    (before : List (Text × Json)) (stack : List Frame) (rest : Text)
    (hroom : d.Admits (stack.length + 1 + depth)) :
    ∃ q, run d length (.name fresh before stack)
        (Lexer.run .between position
          (writeString s m.1 ++ (s.nameSeparator ++ (write s m.2 ++ rest)))) =
      run d length (.after m.2 (.object before m.1 :: stack)) (Lexer.run .between q rest) := by
  obtain ⟨o, ho⟩ := Lexer.run_writeString s hn position
    (s.nameSeparator ++ (write s m.2 ++ rest))
  obtain ⟨p, hp⟩ := Lexer.run_separator (fun _ => rfl) hs.colon o (write s m.2 ++ rest)
  obtain ⟨q, hq⟩ := h length p false (.object before m.1 :: stack) rest hroom
  refine ⟨q, ?_⟩
  have hname : step d (.name fresh before stack) ⟨position, .string m.1⟩ =
      .ok (.colon m.1 before stack) := by
    simp only [step, stepName, takeString_of_isEncodable d hn]
    rfl
  rw [ho, run_cons_of_step hname, hp, run_cons_of_step rfl, hq]

/-- The members of an open object, of which there is at least one, up to its end. -/
theorem run_members (hs : s.Legible) {m : Text × Json} {members : List (Text × Json)}
    (hn : ∀ k ∈ m :: members, k.1.isEncodable = true)
    (h : ∀ k ∈ m :: members, Takes d depth (write s k.2) k.2)
    (length position : Nat) (fresh : Bool) (before : List (Text × Json)) (stack : List Frame)
    (rest : Text) (hd : ((before ++ m :: members).map Prod.fst).Nodup)
    (hroom : d.Admits (stack.length + 1 + depth)) :
    ∃ q, run d length (.name fresh before stack)
        (Lexer.run .between position (writeMembers s (m :: members) ++ .char '}' :: rest)) =
      run d length (.after (.obj (before ++ m :: members)) stack)
        (Lexer.run .between q rest) := by
  induction members generalizing m position fresh before with
  | nil =>
      have hset : setMember m.1 m.2 before = before ++ [m] :=
        setMember_of_not_mem (not_mem_of_nodup hd) m.2
      obtain ⟨q, hq⟩ := run_member hs (hn m List.mem_cons_self) (h m List.mem_cons_self) length
        position fresh before stack (.char '}' :: rest) hroom
      refine ⟨q + 1, ?_⟩
      have htext : writeMembers s [m] ++ .char '}' :: rest =
          writeString s m.1 ++ (s.nameSeparator ++ (write s m.2 ++ .char '}' :: rest)) := by
        simp [writeMembers]
      rw [htext, hq, Lexer.run_mark (fun _ => rfl), run_cons_of_step rfl, hset]
  | cons k members ih =>
      have hset : setMember m.1 m.2 before = before ++ [m] :=
        setMember_of_not_mem (not_mem_of_nodup hd) m.2
      let later := writeMembers s (k :: members) ++ .char '}' :: rest
      obtain ⟨p, hp⟩ := run_member hs (hn m List.mem_cons_self) (h m List.mem_cons_self) length
        position fresh before stack (s.itemSeparator ++ later) hroom
      obtain ⟨q, hq⟩ := Lexer.run_separator (fun _ => rfl) hs.comma p later
      obtain ⟨r, hr⟩ := ih (fun x hx => hn x (List.mem_cons_of_mem _ hx))
        (fun x hx => h x (List.mem_cons_of_mem _ hx)) q false (before ++ [m])
        (by simpa using hd)
      refine ⟨r, ?_⟩
      have htext : writeMembers s (m :: k :: members) ++ .char '}' :: rest =
          writeString s m.1 ++
            (s.nameSeparator ++ (write s m.2 ++ (s.itemSeparator ++ later))) := by
        simp [writeMembers, later]
      have hcomma : step d (.after m.2 (.object before m.1 :: stack)) ⟨p, .comma⟩ =
          .ok (.name false (before ++ [m]) stack) := by
        simp only [step, stepAfter, hset]
      rw [htext, hp, hq, run_cons_of_step hcomma, hr]
      simp

theorem takes_obj (hs : s.Legible) {members : List (Text × Json)}
    (hd : (members.map Prod.fst).Nodup) (hn : ∀ m ∈ members, m.1.isEncodable = true)
    (h : ∀ m ∈ members, Takes d depth (write s m.2) m.2) :
    Takes d (depth + 1) (write s (.obj members)) (.obj members) := by
  intro length position fresh stack rest hroom
  have hopen : step d (.value fresh stack) ⟨position, .openObject⟩ =
      .ok (.name true [] stack) :=
    opened_of_admits (admits_mono hroom (by omega)) _
  have htext : write s (.obj members) ++ rest =
      .char '{' :: (writeMembers s members ++ .char '}' :: rest) := by
    simp [write]
  rw [htext, Lexer.run_mark (fun _ => rfl), run_cons_of_step hopen]
  cases members with
  | nil =>
      refine ⟨position + 1 + 1, ?_⟩
      rw [writeMembers, List.nil_append, Lexer.run_mark (fun _ => rfl)]
      exact run_cons_of_step rfl _
  | cons m members =>
      exact run_members hs hn h length (position + 1) true [] stack rest hd
        (admits_mono hroom (by omega))

/-- A plain document is taken wherever there is room for its depth. -/
theorem takes_of_plain (hs : s.Legible) {v : Json} (hv : Plain depth v) :
    Takes d depth (write s v) v := by
  induction hv with
  | str ht => exact takes_str ht
  | arr h ih => exact takes_arr hs ih
  | obj hd hn h ih => exact takes_obj hs hd hn ih

end Reader

/-- A plain document is what its text reads as, with blanks after it at most. -/
theorem read_write {s : Style} (hs : s.Legible) {d : Dialect} {depth : Nat} {v : Json}
    (hv : Plain depth v) (hd : d.Admits depth) {blanks : Text} (hblanks : Blank blanks) :
    read d (write s v ++ blanks) = .ok v := by
  obtain ⟨q, hq⟩ := Reader.takes_of_plain hs hv (write s v ++ blanks).length 0 false [] blanks
    (by simpa using hd)
  rw [read, lexemes, hq, ← List.append_nil blanks, Lexer.run_blanks hblanks]
  rfl

theorem read_writeCompact {d : Dialect} {depth : Nat} {v : Json} (hv : Plain depth v)
    (hd : d.Admits depth) : read d (writeCompact v) = .ok v := by
  have hread := read_write Style.legible_compact hv hd (List.forall_mem_nil _)
  rwa [List.append_nil] at hread

end Json
end SealedPost
