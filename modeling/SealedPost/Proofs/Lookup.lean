import Mathlib.Data.List.Basic

/-!
# Looking up in lists with distinct keys

Messages by their keys and cursors by their sockets are lists of pairs. While the keys of
such a list are distinct, what is looked up under a key is the one entry that has it.
-/

namespace SealedPost.Lookup

variable {α β : Type} [BEq α] [LawfulBEq α]

theorem lookup_eq_some_iff_mem {entries : List (α × β)} (h : (entries.map Prod.fst).Nodup)
    {key : α} {value : β} : entries.lookup key = some value ↔ (key, value) ∈ entries := by
  induction entries with
  | nil => simp
  | cons entry rest ih =>
      obtain ⟨k, v⟩ := entry
      obtain ⟨hnew, hrest⟩ := List.nodup_cons.mp h
      by_cases hk : key = k
      · subst hk
        have hother : (key, value) ∉ rest := fun hmem =>
          hnew (List.mem_map.mpr ⟨_, hmem, rfl⟩)
        simp [hother, eq_comm]
      · have hne : (key == k) = false := beq_false_of_ne hk
        rw [List.lookup_cons, hne]
        simp [ih hrest, hk]

end SealedPost.Lookup
