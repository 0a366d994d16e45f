import SealedPost.Crypto.Curve25519

/-!
# A key with which nobody agrees

The coordinate zero belongs to a point of order two. From the first bit of a scalar on both
fractions of the ladder have the denominator zero, so every multiple comes out as zero and the
agreement is refused, whatever the secret key is.
-/

namespace SealedPost

namespace Crypto.X25519

open Field25519

/-- Both fractions have the denominator zero. -/
structure Ladder.Vanishes (l : Ladder) : Prop where
  z2 : l.z2 = 0
  z3 : l.z3 = 0

theorem sub_self_mul (a b : Nat) : sub (mul a b) (mul a b) = 0 := by
  have hlt : mul a b < modulus := Nat.mod_lt _ (by decide)
  rw [sub, Nat.add_sub_cancel' (Nat.le_of_lt hlt), Nat.mod_self]

/-- Over the coordinate zero the difference of the two multiples never gets a denominator. -/
theorem Ladder.double_zero_z3 (l : Ladder) : (l.double 0).z3 = 0 := by
  simp only [double, mul, Nat.zero_mul, Nat.zero_mod]

theorem Ladder.double_z2 {l : Ladder} (h : l.z2 = 0) (u : Nat) : (l.double u).z2 = 0 := by
  have hsame : sub l.x2 l.z2 = add l.x2 l.z2 := by
    rw [h, sub, add, Nat.sub_zero, Nat.add_mod_right, Nat.add_zero]
  simp only [double, hsame, sub_self_mul]
  simp only [mul, Nat.zero_mul, Nat.zero_mod]

theorem Ladder.Vanishes.step {l : Ladder} (h : l.Vanishes) (bit : Bool) :
    (Ladder.step 0 l bit).Vanishes := by
  cases bit with
  | false => exact ⟨double_z2 h.z2 0, double_zero_z3 l⟩
  | true => exact ⟨double_zero_z3 l.swap, double_z2 h.z3 0⟩

theorem Ladder.vanishes_start (bit : Bool) : (Ladder.step 0 ⟨1, 0, 0, 1⟩ bit).Vanishes := by
  cases bit with
  | false => exact ⟨double_z2 rfl 0, double_zero_z3 _⟩
  | true => exact ⟨double_zero_z3 _, by decide +kernel⟩

theorem Ladder.Vanishes.foldl {l : Ladder} (h : l.Vanishes) (scalar : List Bool) :
    (scalar.foldl (Ladder.step 0) l).Vanishes := by
  induction scalar generalizing l with
  | nil => exact h
  | cons bit rest ih => exact ih (h.step bit)

theorem inverse_zero : inverse 0 = 0 := by
  decide +kernel

/-- Every multiple of the point with the coordinate zero comes out as zero. -/
theorem multiply_zero (n : Nat) : multiply n 0 = 0 := by
  have hvanishes : ((bits 255 n).foldl (Ladder.step 0) ⟨1, 0, 0, 1⟩).Vanishes := by
    rw [bits, List.range_succ, List.reverse_append, List.reverse_singleton, List.singleton_append,
      List.map_cons, List.foldl_cons]
    exact (Ladder.vanishes_start _).foldl _
  simp only [multiply, hvanishes.z2, inverse_zero]
  simp only [mul, Nat.mul_zero, Nat.zero_mod]

/-- No secret key agrees with a public key that stands for the coordinate zero. -/
theorem agree?_eq_none_of_coordinate {peer : Bytes} (h : coordinate peer = 0) (secret : Bytes) :
    agree? secret peer = none := by
  simp only [agree?, h, multiply_zero, if_true]

end Crypto.X25519

end SealedPost
