import SealedPost.Proofs.Attempt
import SealedPost.Proofs.Json.Documents

/-!
# Limited room for nesting

A reader with limited room reads what a reader with room for everything reads, unless it comes to
a place for which its room is not enough, and there it breaks off. However much room it has, there
are texts that are too much for it.
-/

namespace SealedPost.Json

namespace Reader

/-- A room is not enough for a value that starts so: an array or object past its levels, or a word
for a number too deep inside of them. -/
inductive Overruns (r : Room) : State → Token → Prop
  | array {fresh : Bool} {stack : List Frame} (hdeep : r.levels ≤ stack.length) :
      Overruns r (.value fresh stack) .openArray
  | object {fresh : Bool} {stack : List Frame} (hdeep : r.levels ≤ stack.length) :
      Overruns r (.value fresh stack) .openObject
  | word {fresh : Bool} {stack : List Frame} {x : Binary64} (hdeep : r.words < stack.length) :
      Overruns r (.value fresh stack) (.word (.float x))

/-- From a state on, a reader with room for everything comes to a place for which a room is not
enough, be it a value or a malformed place that is to be reported. -/
inductive Exhausts (r : Room) (length : Nat) : State → List Lexeme → Prop
  | overrun {s : State} {l : Lexeme} {rest : List Lexeme} (hover : Overruns r s l.token) :
      Exhausts r length s (l :: rest)
  | report {s : State} {l : Lexeme} {rest : List Lexeme} {fault : Fault}
      (hstep : step .lenient s l = .error fault) (hneeds : fault.needsReport = true)
      (hdeep : r.reports < s.depth) : Exhausts r length s (l :: rest)
  | ending {s : State} {fault : Fault} (hfinish : finish length s = .error fault)
      (hneeds : fault.needsReport = true) (hdeep : r.reports < s.depth) : Exhausts r length s []
  | later {s next : State} {l : Lexeme} {rest : List Lexeme} (hstep : step .lenient s l = .ok next)
      (hrest : Exhausts r length next rest) : Exhausts r length s (l :: rest)

section Lenient

theorem takeWord_lenient (depth : Nat) (v : Json) : takeWord .lenient depth v = .ok v := by
  cases v <;> rfl

theorem takeNumber_ne_tooDeep {limit? : Option Nat} {digits : Nat} {number : Json} :
    takeNumber limit? digits number ≠ .error .tooDeep := by
  intro h
  unfold takeNumber at h
  split at h
  · split at h <;> cases h
  · cases h

theorem stepValue_lenient_ne_tooDeep (fresh : Bool) (stack : List Frame) (l : Lexeme) :
    stepValue .lenient fresh stack l ≠ .error .tooDeep := by
  intro h
  unfold stepValue at h
  split at h
  · cases h
  · cases h
  · rw [takeWord_lenient] at h
    cases h
  · exact takeNumber_ne_tooDeep (Attempt.map_eq_error_iff.mp h)
  · exact takeNumber_ne_tooDeep (Attempt.map_eq_error_iff.mp h)
  · cases h
  · cases h
  · split at h <;> cases h
  · cases h

theorem stepName_lenient_ne_tooDeep (fresh : Bool) (members : List (Text × Json))
    (stack : List Frame) (l : Lexeme) :
    stepName .lenient fresh members stack l ≠ .error .tooDeep := by
  intro h
  unfold stepName at h
  split at h
  · cases h
  · cases h
  · split at h <;> cases h
  · cases h

theorem stepAfter_ne_tooDeep (v : Json) (stack : List Frame) (l : Lexeme) :
    stepAfter v stack l ≠ .error .tooDeep := by
  intro h
  unfold stepAfter at h
  split at h
  · cases h
  · split at h <;> cases h
  · split at h <;> cases h

/-- With room for everything no lexeme is too deep. -/
theorem step_lenient_ne_tooDeep (s : State) (l : Lexeme) :
    step .lenient s l ≠ .error .tooDeep := by
  cases s with
  | value fresh stack => exact stepValue_lenient_ne_tooDeep fresh stack l
  | name fresh members stack => exact stepName_lenient_ne_tooDeep fresh members stack l
  | colon name members stack =>
      intro h
      unfold step at h
      dsimp only at h
      split at h <;> cases h
  | after v stack => exact stepAfter_ne_tooDeep v stack l

theorem finish_ne_tooDeep (length : Nat) (s : State) : finish length s ≠ .error .tooDeep := by
  intro h
  unfold finish at h
  split at h <;> cases h

theorem run_lenient_ne_tooDeep (length : Nat) (s : State) (ls : List Lexeme) :
    run .lenient length s ls ≠ .error .tooDeep := by
  induction ls generalizing s with
  | nil =>
      intro h
      obtain ⟨fault, hfinish, hreport⟩ := Attempt.mapError_eq_error_iff.mp h
      cases hreport
      exact finish_ne_tooDeep length s hfinish
  | cons l rest ih =>
      unfold run
      split
      · exact ih _
      · next fault hstep =>
          intro h
          cases h
          exact step_lenient_ne_tooDeep s l hstep

end Lenient

section Limited

variable {r : Room} {s : State} {l : Lexeme} {fault : Fault} {length : Nat}

/-- A value for which the room is not enough is not read. -/
theorem step_dialect_of_overruns (h : Overruns r s l.token) :
    step r.dialect s l = .error .tooDeep := by
  obtain ⟨position, token⟩ := l
  cases h with
  | array hdeep => exact if_neg (Nat.not_lt.mpr hdeep)
  | object hdeep => exact if_neg (Nat.not_lt.mpr hdeep)
  | @word fresh stack x hdeep =>
      have htake : takeWord r.dialect stack.length (.float x) = .error .tooDeep :=
        if_neg (Nat.not_le.mpr hdeep)
      simp only [step, stepValue, htake]
      rfl

theorem run_dialect_of_overruns (h : Overruns r s l.token) (rest : List Lexeme) :
    run r.dialect length s (l :: rest) = .error .tooDeep := by
  rw [run, step_dialect_of_overruns h]
  rfl

/-- At every other lexeme it does not matter how much room there is. -/
theorem step_dialect_of_not_overruns (h : ¬ Overruns r s l.token) :
    step r.dialect s l = step .lenient s l := by
  obtain ⟨position, token⟩ := l
  cases s with
  | value fresh stack =>
      cases token with
      | openArray => exact if_pos (Nat.not_le.mp fun hdeep => h (.array hdeep))
      | openObject => exact if_pos (Nat.not_le.mp fun hdeep => h (.object hdeep))
      | word v =>
          have htake : takeWord r.dialect stack.length v = .ok v := by
            cases v with
            | float x => exact if_pos (Nat.not_lt.mp fun hdeep => h (.word hdeep))
            | _ => rfl
          simp only [step, stepValue, htake, takeWord_lenient]
      | _ => rfl
  | _ => rfl

theorem report_dialect_eq_tooDeep (hneeds : fault.needsReport = true)
    (hdeep : r.reports < s.depth) : report r.dialect s.depth fault = .tooDeep :=
  if_pos (Bool.and_eq_true_iff.mpr ⟨hneeds, decide_eq_true hdeep⟩)

theorem report_dialect_eq_self (h : fault.needsReport = true → s.depth ≤ r.reports) :
    report r.dialect s.depth fault = fault := by
  refine if_neg fun hboth => ?_
  obtain ⟨hneeds, hdeep⟩ := Bool.and_eq_true_iff.mp hboth
  exact Nat.not_lt.mpr (h hneeds) (of_decide_eq_true hdeep)

/-- The reading breaks off if there is a place for which the room is not enough. -/
theorem run_dialect_of_exhausts {ls : List Lexeme} (h : Exhausts r length s ls) :
    run r.dialect length s ls = .error .tooDeep := by
  induction h with
  | overrun hover => exact run_dialect_of_overruns hover _
  | @report s l rest fault hstep hneeds hdeep =>
      by_cases hover : Overruns r s l.token
      · exact run_dialect_of_overruns hover rest
      · rw [run, step_dialect_of_not_overruns hover, hstep]
        exact congrArg _ (report_dialect_eq_tooDeep hneeds hdeep)
  | ending hfinish hneeds hdeep =>
      rw [run, hfinish]
      exact congrArg _ (report_dialect_eq_tooDeep hneeds hdeep)
  | @later s next l rest hstep hrest ih =>
      by_cases hover : Overruns r s l.token
      · exact run_dialect_of_overruns hover rest
      · rw [run, step_dialect_of_not_overruns hover, hstep]
        exact ih

/-- Without such a place it does not matter how much room there is. -/
theorem run_dialect_of_not_exhausts {ls : List Lexeme} (h : ¬ Exhausts r length s ls) :
    run r.dialect length s ls = run .lenient length s ls := by
  induction ls generalizing s with
  | nil =>
      rw [run, run]
      cases hfinish : finish length s with
      | ok v => rfl
      | error fault =>
          refine congrArg Except.error (report_dialect_eq_self fun hneeds => ?_)
          exact Nat.not_lt.mp fun hdeep => h (.ending hfinish hneeds hdeep)
  | cons l rest ih =>
      rw [run, run, step_dialect_of_not_overruns fun hover => h (.overrun hover)]
      cases hstep : step .lenient s l with
      | ok next => exact ih fun hrest => h (.later hstep hrest)
      | error fault =>
          refine congrArg Except.error (report_dialect_eq_self fun hneeds => ?_)
          exact Nat.not_lt.mp fun hdeep => h (.report hstep hneeds hdeep)

/-- As many arrays as there are levels and one more, each inside the one before, are too many. -/
theorem exhausts_brackets {n : Nat} {stack : List Frame} (hstack : stack.length ≤ r.levels)
    (h : r.levels < stack.length + n) (position : Nat) (fresh : Bool) (rest : Text) :
    Exhausts r length (.value fresh stack)
      (Lexer.run .between position (List.replicate n (.char '[') ++ rest)) := by
  induction n generalizing stack position fresh with
  | zero => exact absurd h (Nat.not_lt.mpr hstack)
  | succ n ih =>
      rw [List.replicate_succ, List.cons_append, Lexer.run_mark fun _ => rfl]
      rcases Nat.eq_or_lt_of_le hstack with hfull | hroom
      · exact .overrun (.array (Nat.le_of_eq hfull.symm))
      · have hdeeper : (Frame.array [] :: stack).length ≤ r.levels := hroom
        have hmore : r.levels < (Frame.array [] :: stack).length + n := by
          rw [List.length_cons]
          omega
        exact .later rfl (ih hdeeper hmore (position + 1) true)

end Limited

end Reader

/-- A text has a place for which a room is not enough, and no fault before it. -/
def Exhausts (r : Room) (t : Text) : Prop :=
  Reader.Exhausts r t.length (.value false []) (lexemes t)

theorem read_dialect_eq_tooDeep_iff {r : Room} {t : Text} :
    read r.dialect t = .error .tooDeep ↔ Exhausts r t := by
  constructor
  · intro h
    by_contra hnever
    have hlenient : read .lenient t = .error .tooDeep :=
      (Reader.run_dialect_of_not_exhausts hnever).symm.trans h
    exact Reader.run_lenient_ne_tooDeep _ _ _ hlenient
  · exact Reader.run_dialect_of_exhausts

example : read (Room.dialect ⟨2, 1, 0⟩) "[[NaN]]" = .error .tooDeep := by rfl

/-- The reading of a document breaks off exactly if its text has a place for which the room is not
enough. -/
theorem readDocumentIn_eq_tooDeep_iff {r : Room} {bytes : Bytes} {t : Text} :
    readDocumentIn r.dialect bytes = .error (.unreadable t .tooDeep) ↔
      Encoding.decodeDocument bytes = .ok t ∧ Exhausts r t := by
  rw [← read_dialect_eq_tooDeep_iff, readDocumentIn]
  cases hdecode : Encoding.decodeDocument bytes with
  | error fault => simp
  | ok text =>
      rw [Attempt.mapError_eq_error_iff]
      constructor
      · rintro ⟨fault, hread, heq⟩
        cases heq
        exact ⟨rfl, hread⟩
      · rintro ⟨heq, hread⟩
        cases heq
        exact ⟨_, hread, rfl⟩

/-- For every room there is a document that is too much for it. -/
theorem exists_document_exhausts (r : Room) :
    ∃ bytes t, Encoding.decodeDocument bytes = .ok t ∧ Exhausts r t := by
  have htext : Text.isEncodable (List.replicate (r.levels + 2) (.char '[')) = true := by
    simp [Text.isEncodable, CodePoint.isSurrogate]
  have hlevels : r.levels < ([] : List Reader.Frame).length + (r.levels + 2) := by
    rw [List.length_nil]
    omega
  have hbrackets : Exhausts r (List.replicate (r.levels + 2) (.char '[') ++ []) :=
    Reader.exhausts_brackets (Nat.zero_le _) hlevels 0 false []
  rw [List.append_nil] at hbrackets
  exact ⟨_, _, Encoding.decodeDocument_encode htext rfl (.inl rfl) (by decide), hbrackets⟩

end SealedPost.Json
