import SealedPost.Text.Quoted

/-! # Lone surrogates where an encoding is wanted

A text that has to be encoded is refused at its first lone surrogate. What is told about
it is the run of surrogates that starts there. -/

namespace SealedPost

/-- Lone surrogates next to each other in a text, with the position of the first. -/
structure SurrogateRun where
  start : Nat
  members : Text
deriving DecidableEq

/-- The run of surrogates that starts at the first code point that is refused. -/
def Text.surrogateRun? (refused : CodePoint → Bool) (t : Text) : Option SurrogateRun :=
  match t.dropWhile fun c => !refused c with
  | [] => none
  | rest => some ⟨t.length - rest.length, rest.takeWhile CodePoint.isSurrogate⟩

theorem Text.surrogateRun?_eq_none_iff {refused : CodePoint → Bool} {t : Text} :
    t.surrogateRun? refused = none ↔ ∀ c ∈ t, refused c = false := by
  have dropped : t.dropWhile (fun c => !refused c) = [] ↔ ∀ c ∈ t, refused c = false := by
    induction t with
    | nil => simp
    | cons c rest ih => by_cases h : refused c <;> simp [h, ih]
  rw [← dropped, surrogateRun?]
  split <;> simp_all

/-- The wording for a run: one surrogate is shown, of more the first and last position. -/
def SurrogateRun.message (r : SurrogateRun) : Text :=
  let opening : Text := "'utf-8' codec can't encode character"
  let closing : Text := ": surrogates not allowed"
  match r.members with
  | [c] =>
    opening ++ " '" ++ Text.numericEscape c.toNat ++ "' in position " ++ Text.ofNat r.start
      ++ closing
  | members =>
    opening ++ "s in position " ++ Text.ofNat r.start ++ "-"
      ++ Text.ofNat (r.start + members.length - 1) ++ closing

end SealedPost
