import Mathlib.Data.List.Induction
import SealedPost.Proofs.Token.Replay

/-!
# What the cache remembers

An entry whose time is past is swept only when the next identifier comes, whoever presents that
one and however it is answered. The sweeping cannot be observed: as long as its time is not past,
the cache holds exactly what was ever taken. No use before a given second sweeps an entry that is
kept until then, and this carries the induction over a run.
-/

namespace SealedPost.Token

/-- A use of an identifier: when it is presented, and when its token expires. -/
structure Use where
  id : Text
  now : Int
  expiry : Int
deriving DecidableEq

namespace Use

/-- The last second in which the identifier of a use may not be used again. -/
def keptUntil (lifetime : Int) (u : Use) : Int := max u.expiry (u.now + lifetime)

/-- The entry that a use makes if it takes its identifier. -/
def entry (lifetime : Int) (u : Use) : Text × Int := (u.id, u.keptUntil lifetime)

end Use

namespace Cache

/-- The answer to a use, and the cache after it. -/
def use (c : Cache) (lifetime : Int) (u : Use) : Except Refusal Unit × Cache :=
  c.take lifetime u.id u.now u.expiry

/-- The cache after uses made one after the other, from an empty cache. -/
def afterUses (lifetime : Int) (uses : List Use) : Cache :=
  uses.foldl (fun c u => (c.use lifetime u).2) []

/-- The answer to a use of a run, from the cache that the uses before it left. -/
def answerAt (lifetime : Int) (uses : List Use) (i : Nat) : Option (Except Refusal Unit) :=
  uses[i]?.map fun u => ((afterUses lifetime (uses.take i)).use lifetime u).1

end Cache

open Cache

/-- A use of a run takes its identifier. -/
structure Accepted (lifetime : Int) (uses : List Use) (i : Nat) (u : Use) : Prop where
  use_eq : uses[i]? = some u
  answer_eq : answerAt lifetime uses i = some (.ok ())

/-- A use before a given one took an identifier and keeps it to a second that is not past. -/
def Remembered (lifetime : Int) (uses : List Use) (j : Nat) (id : Text) (now : Int) : Prop :=
  ∃ i < j, ∃ u, Accepted lifetime uses i u ∧ u.id = id ∧ now ≤ u.keptUntil lifetime

section Step

variable {c : Cache} {lifetime : Int} {u : Use} {entry : Text × Int}

/-- A use changes nothing about entries whose time is not past but that its own may come in. -/
theorem Cache.mem_use_iff (hnow : u.now ≤ entry.2) :
    entry ∈ (c.use lifetime u).2 ↔
      entry ∈ c ∨ ((c.use lifetime u).1 = .ok () ∧ entry = u.entry lifetime) := by
  unfold Cache.use
  obtain ⟨-, htake⟩ | ⟨-, -, htake⟩ | ⟨-, -, htake⟩ :=
    take_cases c lifetime u.id u.now u.expiry
  · simp [htake]
  · simp [htake, mem_sweep, hnow]
  · simp [htake, mem_sweep, hnow, Use.entry, Use.keptUntil]

/-- A use leaves one entry for each identifier. -/
theorem Cache.nodup_use (h : (c.map Prod.fst).Nodup) :
    ((c.use lifetime u).2.map Prod.fst).Nodup := by
  have hswept : ((c.sweep u.now).map Prod.fst).Nodup :=
    h.sublist (List.filter_sublist.map Prod.fst)
  unfold Cache.use
  obtain ⟨-, htake⟩ | ⟨-, -, htake⟩ | ⟨-, hpast, htake⟩ :=
    take_cases c lifetime u.id u.now u.expiry
  · rw [htake]
    exact h
  · rw [htake]
    exact hswept
  · rw [htake, List.map_append, List.nodup_append]
    refine ⟨hswept, List.pairwise_singleton .., ?_⟩
    rintro id hid _ (_ | ⟨_, ⟨⟩⟩) rfl
    obtain ⟨entry, hentry, heq⟩ := List.mem_map.mp hid
    obtain ⟨hmem, hnow⟩ := mem_sweep.mp hentry
    exact absurd (hpast entry hmem heq) (Int.not_lt.mpr hnow)

end Step

section Run

variable {lifetime : Int} {uses : List Use} {j : Nat} {u : Use} {entry : Text × Int}

theorem afterUses_take_succ (hu : uses[j]? = some u) :
    afterUses lifetime (uses.take (j + 1)) =
      ((afterUses lifetime (uses.take j)).use lifetime u).2 := by
  rw [List.take_add_one, hu, Option.toList_some, afterUses, List.foldl_concat]
  rfl

theorem answerAt_eq (hu : uses[j]? = some u) :
    answerAt lifetime uses j =
      some ((afterUses lifetime (uses.take j)).use lifetime u).1 := by
  rw [answerAt, hu, Option.map_some]

/-- A run leaves one entry for each identifier. -/
theorem nodup_afterUses (lifetime : Int) (uses : List Use) :
    ((afterUses lifetime uses).map Prod.fst).Nodup := by
  induction uses using List.reverseRecOn with
  | nil => exact List.nodup_nil
  | append_singleton uses u ih =>
      rw [afterUses, List.foldl_concat]
      exact nodup_use ih

/-- An entry whose time is not past for any use so far is in the cache exactly if a use took
its identifier and made it. -/
theorem mem_afterUses_iff (hnow : ∀ u ∈ uses.take j, u.now ≤ entry.2) :
    entry ∈ afterUses lifetime (uses.take j) ↔
      ∃ i < j, ∃ u, Accepted lifetime uses i u ∧ u.entry lifetime = entry := by
  induction j with
  | zero => simp [afterUses]
  | succ j ih =>
      have hearlier : ∀ u ∈ uses.take j, u.now ≤ entry.2 := fun u hu =>
        hnow u (List.take_subset_take_left uses (Nat.le_succ j) hu)
      cases hu : uses[j]? with
      | none =>
          have hend : uses.take (j + 1) = uses.take j := by
            rw [List.take_add_one, hu, Option.toList_none, List.append_nil]
          rw [hend, ih hearlier]
          constructor
          · rintro ⟨i, hi, u, haccepted⟩
            exact ⟨i, Nat.lt_succ_of_lt hi, u, haccepted⟩
          · rintro ⟨i, hi, u, haccepted, hentry⟩
            rcases Nat.lt_succ_iff_lt_or_eq.mp hi with hi | rfl
            · exact ⟨i, hi, u, haccepted, hentry⟩
            · cases hu.symm.trans haccepted.use_eq
      | some v =>
          have hv : v.now ≤ entry.2 := hnow v (by simp [List.take_add_one, hu])
          rw [afterUses_take_succ hu, mem_use_iff hv, ih hearlier]
          constructor
          · rintro (⟨i, hi, u, haccepted⟩ | ⟨hok, rfl⟩)
            · exact ⟨i, Nat.lt_succ_of_lt hi, u, haccepted⟩
            · exact ⟨j, Nat.lt_succ_self j, v, ⟨hu, (answerAt_eq hu).trans (congrArg some hok)⟩,
                rfl⟩
          · rintro ⟨i, hi, u, haccepted, hentry⟩
            rcases Nat.lt_succ_iff_lt_or_eq.mp hi with hi | rfl
            · exact .inl ⟨i, hi, u, haccepted, hentry⟩
            · cases hu.symm.trans haccepted.use_eq
              exact .inr ⟨Option.some.inj ((answerAt_eq hu).symm.trans haccepted.answer_eq),
                hentry.symm⟩

/-- An entry whose time is not past for a use is in the cache that the use meets exactly if a use
before it took its identifier and made it. -/
theorem mem_afterUses_take_iff (hclock : uses.Pairwise fun a b => a.now ≤ b.now)
    (hu : uses[j]? = some u) (hnow : u.now ≤ entry.2) :
    entry ∈ afterUses lifetime (uses.take j) ↔
      ∃ i < j, ∃ v, Accepted lifetime uses i v ∧ v.entry lifetime = entry :=
  mem_afterUses_iff fun _ hv => Int.le_trans (rel_of_mem_take hclock hu hv) hnow

/-- An identifier is remembered exactly if the cache has an entry of it whose time is not past. -/
theorem remembered_iff (hclock : uses.Pairwise fun a b => a.now ≤ b.now)
    (hu : uses[j]? = some u) :
    Remembered lifetime uses j u.id u.now ↔
      ∃ entry ∈ afterUses lifetime (uses.take j), entry.1 = u.id ∧ u.now ≤ entry.2 := by
  constructor
  · rintro ⟨i, hi, v, haccepted, hid, hnow⟩
    refine ⟨v.entry lifetime, ?_, hid, hnow⟩
    exact (mem_afterUses_take_iff hclock hu hnow).mpr ⟨i, hi, v, haccepted, rfl⟩
  · rintro ⟨entry, hentry, hid, hnow⟩
    obtain ⟨i, hi, v, haccepted, rfl⟩ := (mem_afterUses_take_iff hclock hu hnow).mp hentry
    exact ⟨i, hi, v, haccepted, hid, hnow⟩

/-- An identifier that is remembered is a replay, any other is taken. The cache keeps the entries
whose time is not past, and gets one if the identifier is taken. -/
theorem use_cases (lifetime : Int) (hclock : uses.Pairwise fun a b => a.now ≤ b.now)
    (hu : uses[j]? = some u) (hid : u.id ≠ []) :
    (Remembered lifetime uses j u.id u.now ∧
      answerAt lifetime uses j = some (.error .replayed) ∧
      afterUses lifetime (uses.take (j + 1)) =
        (afterUses lifetime (uses.take j)).sweep u.now) ∨
    (¬ Remembered lifetime uses j u.id u.now ∧ answerAt lifetime uses j = some (.ok ()) ∧
      afterUses lifetime (uses.take (j + 1)) =
        (afterUses lifetime (uses.take j)).sweep u.now ++ [u.entry lifetime]) := by
  rw [remembered_iff hclock hu, answerAt_eq hu, afterUses_take_succ hu, Cache.use]
  obtain ⟨hnone, -⟩ | ⟨-, hlive, htake⟩ | ⟨-, hpast, htake⟩ :=
    take_cases (afterUses lifetime (uses.take j)) lifetime u.id u.now u.expiry
  · exact absurd hnone hid
  · rw [htake]
    exact .inl ⟨hlive, rfl, rfl⟩
  · rw [htake]
    refine .inr ⟨?_, rfl, rfl⟩
    rintro ⟨entry, hentry, heq, hnow⟩
    exact absurd (hpast entry hentry heq) (Int.not_lt.mpr hnow)

/-- A use is refused as a replay if its identifier is remembered, and accepted if not. -/
theorem answerAt_eq_iff (lifetime : Int) (hclock : uses.Pairwise fun a b => a.now ≤ b.now)
    (hu : uses[j]? = some u) (hid : u.id ≠ []) :
    (answerAt lifetime uses j = some (.error .replayed) ↔
      Remembered lifetime uses j u.id u.now) ∧
    (answerAt lifetime uses j = some (.ok ()) ↔ ¬ Remembered lifetime uses j u.id u.now) := by
  obtain ⟨h, hreplayed, -⟩ | ⟨h, hok, -⟩ := use_cases lifetime hclock hu hid
  · simp [h, hreplayed]
  · simp [h, hok]

/-- After a use the cache holds the entries of accepted uses whose time is not past, and the
entry that was just made if there is one. -/
theorem mem_afterUses_succ_iff (hclock : uses.Pairwise fun a b => a.now ≤ b.now)
    (hu : uses[j]? = some u) (hid : u.id ≠ []) :
    entry ∈ afterUses lifetime (uses.take (j + 1)) ↔
      (∃ i < j, ∃ v, Accepted lifetime uses i v ∧ v.entry lifetime = entry ∧ u.now ≤ entry.2) ∨
      (Accepted lifetime uses j u ∧ u.entry lifetime = entry) := by
  have hkept : entry ∈ (afterUses lifetime (uses.take j)).sweep u.now ↔
      ∃ i < j, ∃ v, Accepted lifetime uses i v ∧ v.entry lifetime = entry ∧ u.now ≤ entry.2 := by
    rw [mem_sweep]
    constructor
    · rintro ⟨hentry, hnow⟩
      obtain ⟨i, hi, v, haccepted, heq⟩ := (mem_afterUses_take_iff hclock hu hnow).mp hentry
      exact ⟨i, hi, v, haccepted, heq, hnow⟩
    · rintro ⟨i, hi, v, haccepted, heq, hnow⟩
      exact ⟨(mem_afterUses_take_iff hclock hu hnow).mpr ⟨i, hi, v, haccepted, heq⟩, hnow⟩
  obtain ⟨-, hreplayed, hcache⟩ | ⟨-, hok, hcache⟩ :=
    use_cases lifetime hclock hu hid
  · have hrefused : ¬ Accepted lifetime uses j u := by
      intro h
      cases hreplayed.symm.trans h.answer_eq
    rw [hcache, hkept]
    exact ⟨.inl, fun h => h.resolve_right fun h => hrefused h.1⟩
  · have haccepted : Accepted lifetime uses j u := ⟨hu, hok⟩
    rw [hcache, List.mem_append, hkept, List.mem_singleton, @eq_comm _ entry]
    exact or_congr_right ⟨fun h => ⟨haccepted, h⟩, fun h => h.2⟩

theorem Remembered.mono {i : Nat} {id : Text} {now : Int}
    (h : Remembered lifetime uses i id now) (hij : i ≤ j) : Remembered lifetime uses j id now := by
  obtain ⟨k, hk, v, hv⟩ := h
  exact ⟨k, Nat.lt_of_lt_of_le hk hij, v, hv⟩

/-- After a use of an identifier to a second that is not past, the identifier is remembered at
that instant, whether the use took it or not. -/
theorem remembered_of_use (hclock : uses.Pairwise fun a b => a.now ≤ b.now)
    (hu : uses[j]? = some u) (hid : u.id ≠ []) (hnow : u.now ≤ u.keptUntil lifetime) :
    Remembered lifetime uses (j + 1) u.id u.now := by
  obtain ⟨hremembered, -⟩ | ⟨-, hok, -⟩ := use_cases lifetime hclock hu hid
  · exact hremembered.mono (Nat.le_succ j)
  · exact ⟨j, Nat.lt_succ_self j, u, ⟨hu, hok⟩, rfl, hnow⟩

/-- An identifier that is not remembered was not used at the same instant to a second that is
not past. -/
theorem keptUntil_lt_of_not_remembered (hclock : uses.Pairwise fun a b => a.now ≤ b.now)
    (hid : u.id ≠ []) (h : ¬ Remembered lifetime uses j u.id u.now) {i : Nat} (hi : i < j)
    {v : Use} (hv : uses[i]? = some v) (heq : v.id = u.id) (hnow : v.now = u.now) :
    v.keptUntil lifetime < v.now := by
  by_contra hlate
  have hused := remembered_of_use hclock hv (heq ▸ hid) (Int.not_lt.mp hlate)
  rw [heq, hnow] at hused
  exact h (hused.mono hi)

end Run

/-- The lazily swept cache answers as the full history does. With a clock that does not go back,
an identifier is refused as a replay exactly if a use before took it and keeps it to a second that
is not past, and is taken otherwise; after either the cache holds, once for each identifier, the
entries of such uses and the one that was just made. An empty identifier is missing and changes
nothing. Of the uses of one identifier at one instant that would keep it to a second that is not
past, the first is accepted if nothing before it is remembered, and no other. -/
theorem cache_answers_as_full_history (lifetime : Int) (uses : List Use)
    (hclock : uses.Pairwise fun a b => a.now ≤ b.now) {j : Nat} {u : Use}
    (hu : uses[j]? = some u) :
    (u.id = [] →
      answerAt lifetime uses j = some (.error .missingId) ∧ Refusal.missingId.status = 400 ∧
      afterUses lifetime (uses.take (j + 1)) = afterUses lifetime (uses.take j)) ∧
    (u.id ≠ [] →
      (answerAt lifetime uses j = some (.error .replayed) ↔
        Remembered lifetime uses j u.id u.now) ∧
      (answerAt lifetime uses j = some (.ok ()) ↔ ¬ Remembered lifetime uses j u.id u.now) ∧
      ((afterUses lifetime (uses.take (j + 1))).map Prod.fst).Nodup ∧
      (∀ entry, entry ∈ afterUses lifetime (uses.take (j + 1)) ↔
        (∃ i < j, ∃ v, Accepted lifetime uses i v ∧ v.entry lifetime = entry ∧
          u.now ≤ entry.2) ∨
        (Accepted lifetime uses j u ∧ u.entry lifetime = entry)) ∧
      (answerAt lifetime uses j = some (.ok ()) ↔
        ¬ Remembered lifetime uses j u.id u.now ∧
        ∀ i < j, ∀ v, uses[i]? = some v → v.id = u.id → v.now = u.now →
          v.keptUntil lifetime < v.now)) := by
  constructor
  · intro hid
    have huse : (afterUses lifetime (uses.take j)).use lifetime u =
        (.error .missingId, afterUses lifetime (uses.take j)) := by
      rw [Cache.use, Cache.take, hid]
      rfl
    rw [answerAt_eq hu, afterUses_take_succ hu, huse]
    exact ⟨rfl, rfl, rfl⟩
  · intro hid
    obtain ⟨hreplayed, hok⟩ := answerAt_eq_iff lifetime hclock hu hid
    refine ⟨hreplayed, hok, nodup_afterUses .., ?_, ?_⟩
    · intro entry
      exact mem_afterUses_succ_iff hclock hu hid
    · rw [hok]
      constructor
      · intro h
        exact ⟨h, fun i hi v => keptUntil_lt_of_not_remembered hclock hid h hi⟩
      · intro h
        exact h.1

/-- A run in which an identifier lapses: it is presented again in its last second, in the second
after it, when another use has swept it, and once more at that instant. -/
def lapsingUses : List Use :=
  [⟨"a", 0, 100⟩, ⟨"a", 600, 2000⟩, ⟨"", 600, 900⟩, ⟨"b", 601, 700⟩, ⟨"a", 601, 650⟩,
    ⟨"a", 601, 5000⟩]

/-- In its last second the identifier is a replay; in the next one it is no longer remembered and
is taken, once, and the cache holds the entry that was made then and the one of the other use. -/
theorem lapsing_identifier_is_taken_again :
    (lapsingUses.Pairwise fun a b => a.now ≤ b.now) ∧
    answerAt 600 lapsingUses 1 = some (.error .replayed) ∧
    answerAt 600 lapsingUses 2 = some (.error .missingId) ∧
    ¬ Remembered 600 lapsingUses 4 "a" 601 ∧
    answerAt 600 lapsingUses 4 = some (.ok ()) ∧
    answerAt 600 lapsingUses 5 = some (.error .replayed) ∧
    (Text.ofString "a", 1201) ∈ afterUses 600 (lapsingUses.take 6) ∧
    (Text.ofString "b", 1201) ∈ afterUses 600 (lapsingUses.take 6) := by
  have hclock : lapsingUses.Pairwise fun a b => a.now ≤ b.now := by decide
  have hfirst : Accepted 600 lapsingUses 0 ⟨"a", 0, 100⟩ := ⟨rfl, rfl⟩
  have hother : Accepted 600 lapsingUses 3 ⟨"b", 601, 700⟩ := ⟨rfl, rfl⟩
  have hagain : Accepted 600 lapsingUses 4 ⟨"a", 601, 650⟩ := ⟨rfl, rfl⟩
  obtain ⟨hreplayed, -⟩ := (cache_answers_as_full_history 600 lapsingUses hclock
    (rfl : lapsingUses[1]? = some ⟨"a", 600, 2000⟩)).2 nofun
  obtain ⟨hmissing, -⟩ := (cache_answers_as_full_history 600 lapsingUses hclock
    (rfl : lapsingUses[2]? = some ⟨"", 600, 900⟩)).1 rfl
  obtain ⟨-, htaken, -⟩ := (cache_answers_as_full_history 600 lapsingUses hclock
    hagain.use_eq).2 nofun
  obtain ⟨hreplayed', -, -, hcache, -⟩ := (cache_answers_as_full_history 600 lapsingUses hclock
    (rfl : lapsingUses[5]? = some ⟨"a", 601, 5000⟩)).2 nofun
  refine ⟨hclock, ?_, hmissing, htaken.mp hagain.answer_eq, hagain.answer_eq, ?_, ?_, ?_⟩
  · exact hreplayed.mpr ⟨0, by decide, _, hfirst, rfl, by decide⟩
  · exact hreplayed'.mpr ⟨4, by decide, _, hagain, rfl, by decide⟩
  · exact (hcache _).mpr (.inl ⟨4, by decide, _, hagain, rfl, by decide⟩)
  · exact (hcache _).mpr (.inl ⟨3, by decide, _, hother, rfl, by decide⟩)

end SealedPost.Token
