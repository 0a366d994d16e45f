import SealedPost.Wire.Violation
import Mathlib.Data.List.Forall2

/-!
# Chains of steps that may fail

A chain succeeds exactly if each of its steps does. The equivalences below take a chain
apart step by step, so that no proof about a chain has to open the steps themselves.
-/

namespace SealedPost.Attempt

variable {ε ε' α β : Type}

theorem bind_eq_ok_iff {x : Except ε α} {f : α → Except ε β} {b : β} :
    x >>= f = .ok b ↔ ∃ a, x = .ok a ∧ f a = .ok b := by
  cases x <;> simp [bind, Except.bind]

theorem bind_eq_error_iff {x : Except ε α} {f : α → Except ε β} {e : ε} :
    x >>= f = .error e ↔ x = .error e ∨ ∃ a, x = .ok a ∧ f a = .error e := by
  cases x <;> simp [bind, Except.bind]

-- The proof is a tactic block so that rewriting with it leaves a step in the term: by unfolding
-- alone the kernel would compare the chains first, and evaluate what they agree on.
@[simp] theorem ok_bind (a : α) (f : α → Except ε β) :
    (Except.ok a : Except ε α) >>= f = f a := by
  rfl

@[simp] theorem pure_eq_ok_iff {a b : α} : (pure a : Except ε α) = .ok b ↔ a = b := by
  simp [pure, Except.pure]

theorem map_eq_ok_iff {x : Except ε α} {f : α → β} {b : β} :
    x.map f = .ok b ↔ ∃ a, x = .ok a ∧ f a = b := by
  cases x <;> simp [Except.map]

theorem map_eq_error_iff {x : Except ε α} {f : α → β} {e : ε} :
    x.map f = .error e ↔ x = .error e := by
  cases x <;> simp [Except.map]

theorem mapError_eq_ok_iff {x : Except ε α} {f : ε → ε'} {a : α} :
    x.mapError f = .ok a ↔ x = .ok a := by
  cases x with
  | error e => exact ⟨fun h => absurd h (by nofun), fun h => absurd h (by nofun)⟩
  | ok b => exact ⟨fun h => by cases h; rfl, fun h => by cases h; rfl⟩

theorem mapError_eq_error_iff {x : Except ε α} {f : ε → ε'} {e' : ε'} :
    x.mapError f = .error e' ↔ ∃ e, x = .error e ∧ f e = e' := by
  cases x with
  | error e =>
      constructor
      · intro h
        exact ⟨e, rfl, Except.error.inj h⟩
      · rintro ⟨e, he, rfl⟩
        cases he
        rfl
  | ok a =>
      constructor
      · intro h
        cases h
      · rintro ⟨e, he, -⟩
        cases he

/-- A step that fails in one way only fails so exactly if it has no result. -/
theorem eq_error_iff_of_forall {x : Except ε α} {e e' : ε} (h : ∀ e', x = .error e' → e' = e) :
    x = .error e' ↔ e' = e ∧ ∀ a, x ≠ .ok a := by
  cases x with
  | error e'' =>
      obtain rfl := h e'' rfl
      simp [eq_comm]
  | ok a => simp

theorem exists_eq_ok_of_isOk {x : Except ε α} (h : x.isOk = true) : ∃ a, x = .ok a := by
  cases x with
  | error e => cases h
  | ok a => exact ⟨a, rfl⟩

theorem eq_ok_of_toOption_eq_some {x : Except ε α} {a : α} (h : x.toOption = some a) :
    x = .ok a := by
  cases x with
  | error e => cases h
  | ok b => exact congrArg _ (Option.some.inj h)

/-- What is said of the result of a step, if there is one, can be decided on the step. -/
instance decidableForallOk {P : α → Prop} [DecidablePred P] (x : Except ε α) :
    Decidable (∀ a, x = .ok a → P a) :=
  match x with
  | .error _ => .isTrue nofun
  | .ok a => decidable_of_iff (P a) ⟨fun h _ ha => Except.ok.inj ha ▸ h, fun h => h a rfl⟩

/-- A list of steps succeeds with the results of its steps, in order. -/
theorem mapM_eq_ok_iff {f : α → Except ε β} {xs : List α} {ys : List β} :
    xs.mapM f = .ok ys ↔ List.Forall₂ (fun x y => f x = .ok y) xs ys := by
  induction xs generalizing ys with
  | nil => cases ys <;> simp
  | cons x xs ih =>
      simp only [List.mapM_cons, bind_eq_ok_iff, pure_eq_ok_iff, ih]
      constructor
      · rintro ⟨y, hy, zs, hzs, rfl⟩
        exact .cons hy hzs
      · rintro (_ | ⟨hy, hzs⟩)
        exact ⟨_, hy, _, hzs, rfl⟩

/-- A list of steps fails in the way of the first of its steps that fails. -/
theorem mapM_eq_error_iff {f : α → Except ε β} {xs : List α} {e : ε} :
    xs.mapM f = .error e ↔ ∃ before x after, xs = before ++ x :: after ∧
      (∀ y ∈ before, ∃ b, f y = .ok b) ∧ f x = .error e := by
  constructor
  · intro h
    induction xs with
    | nil => cases h
    | cons x xs ih =>
        rw [List.mapM_cons, bind_eq_error_iff] at h
        rcases h with hx | ⟨b, hb, hrest⟩
        · exact ⟨[], x, xs, rfl, List.forall_mem_nil _, hx⟩
        · rcases bind_eq_error_iff.mp hrest with hxs | ⟨bs, -, hpure⟩
          · obtain ⟨before, y, after, rfl, hbefore, hy⟩ := ih hxs
            exact ⟨x :: before, y, after, rfl, List.forall_mem_cons.mpr ⟨⟨b, hb⟩, hbefore⟩, hy⟩
          · cases hpure
  · rintro ⟨before, x, after, rfl, hbefore, hx⟩
    induction before with
    | nil =>
        rw [List.nil_append, List.mapM_cons]
        exact bind_eq_error_iff.mpr (.inl hx)
    | cons y before ih =>
        obtain ⟨⟨b, hb⟩, hbefore⟩ := List.forall_mem_cons.mp hbefore
        rw [List.cons_append, List.mapM_cons]
        apply bind_eq_error_iff.mpr
        exact .inr ⟨b, hb, bind_eq_error_iff.mpr (.inl (ih hbefore))⟩

theorem exists_of_mapM_eq_error {f : α → Except ε β} {xs : List α} {e : ε}
    (h : xs.mapM f = .error e) : ∃ x ∈ xs, f x = .error e := by
  obtain ⟨before, x, after, rfl, -, hx⟩ := mapM_eq_error_iff.mp h
  exact ⟨x, List.mem_append_right _ List.mem_cons_self, hx⟩

/-- What stands at a position of one list has a partner at that position of the other. -/
theorem exists_of_getElem? {R : α → β → Prop} {xs : List α} {ys : List β}
    (h : List.Forall₂ R xs ys) {i : Nat} {y : β} (hy : ys[i]? = some y) :
    ∃ x, xs[i]? = some x ∧ R x y := by
  induction h generalizing i with
  | nil => cases hy
  | @cons a b _ _ hab _ ih =>
      cases i with
      | zero =>
          cases hy
          exact ⟨a, rfl, hab⟩
      | succ i => exact ih hy

theorem exists_of_mem {R : α → β → Prop} {xs : List α} {ys : List β}
    (h : List.Forall₂ R xs ys) {y : β} (hy : y ∈ ys) : ∃ x ∈ xs, R x y := by
  obtain ⟨i, hi⟩ := List.mem_iff_getElem?.mp hy
  obtain ⟨x, hx, hxy⟩ := exists_of_getElem? h hi
  exact ⟨x, List.mem_of_getElem? hx, hxy⟩

end SealedPost.Attempt
