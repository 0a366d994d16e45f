import SealedPost.Commitment
import Mathlib.Data.List.Basic

/-!
# What a commitment binds

Two commitments with one digest are commitments to the same subject up to the kinds of
entries, or two different strings hashed on the way have one digest.

## Implementation notes

Collisions of a digest of 32 bytes exist, so the alternative says more than that one
exists: its two strings are among those that were hashed for the two commitments.
-/

namespace SealedPost

/-- A message without the kinds of its entries. -/
def Message.pairs (m : Message) : List (Bytes × Bytes) := m.entries.map fun e => (e.key, e.value)

namespace Commitment

open Crypto

/-- Two different strings with one digest, one from each list. -/
def Collide (xs ys : List Bytes) : Prop :=
  ∃ x ∈ xs, ∃ y ∈ ys, x ≠ y ∧ Blake2s.digest x = Blake2s.digest y

instance (xs ys : List Bytes) : Decidable (Collide xs ys) :=
  inferInstanceAs (Decidable (∃ x ∈ xs, ∃ y ∈ ys, x ≠ y ∧ Blake2s.digest x = Blake2s.digest y))

/-- Two subjects that differ in the kinds of entries at most. -/
structure Subject.Agree (s t : Subject) : Prop where
  origin : s.origin = t.origin
  publicNonce : s.publicNonce = t.publicNonce
  sender : s.sender = t.sender
  relay : s.relay = t.relay
  secretNonce : s.secretNonce = t.secretNonce
  recipients : s.recipients = t.recipients
  pairs : s.message.pairs = t.message.pairs

/-- A collision within smaller lists is one within larger ones. -/
theorem Collide.mono {xs xs' ys ys' : List Bytes} (h : Collide xs ys) (hx : xs ⊆ xs')
    (hy : ys ⊆ ys') : Collide xs' ys' := by
  obtain ⟨x, hxs, y, hys, hxy⟩ := h
  exact ⟨x, hx hxs, y, hy hys, hxy⟩

/-- Strings of two lists that do not collide are equal if their digests are. -/
theorem eq_of_digest_eq {xs ys : List Bytes} (hc : ¬ Collide xs ys) {x y : Bytes}
    (hx : x ∈ xs) (hy : y ∈ ys) (hd : Blake2s.digest x = Blake2s.digest y) : x = y := by
  by_contra hne
  exact hc ⟨x, hx, y, hy, hne, hd⟩

theorem length_saltedDigest (data nonce : Bytes) : (saltedDigest data nonce).length = 32 :=
  Blake2s.length_digest _

/-- A list of salted digests can be cut out of their concatenation. -/
theorem map_eq_of_flatMap_eq {n m : Bytes} {xs ys : List Bytes}
    (h : xs.flatMap (saltedDigest · n) = ys.flatMap (saltedDigest · m)) :
    xs.map (saltedDigest · n) = ys.map (saltedDigest · m) := by
  induction xs generalizing ys with
  | nil =>
      cases ys with
      | nil => rfl
      | cons y ys =>
          have hlen := congrArg List.length h
          simp [length_saltedDigest] at hlen
          omega
  | cons x xs ih =>
      cases ys with
      | nil =>
          have hlen := congrArg List.length h
          simp [length_saltedDigest] at hlen
      | cons y ys =>
          rw [List.flatMap_cons, List.flatMap_cons] at h
          obtain ⟨hhead, htail⟩ := List.append_inj h
            ((length_saltedDigest x n).trans (length_saltedDigest y m).symm)
          rw [List.map_cons, List.map_cons, ih htail]
          exact congrArg (· :: _) hhead

/-- Equal lists of salted digests come from equal lists, unless strings collide. -/
theorem eq_of_map_saltedDigest_eq {n m : Bytes} (hnm : n.length = m.length)
    {xs ys : List Bytes} (hc : ¬ Collide (xs.map (· ++ n)) (ys.map (· ++ m)))
    (h : xs.map (saltedDigest · n) = ys.map (saltedDigest · m)) : xs = ys := by
  induction xs generalizing ys with
  | nil => exact (List.map_eq_nil_iff.mp h.symm).symm
  | cons x xs ih =>
      cases ys with
      | nil => exact absurd h (by simp)
      | cons y ys =>
          rw [List.map_cons, List.map_cons, List.cons.injEq] at h
          have hxy : x ++ n = y ++ m :=
            eq_of_digest_eq hc List.mem_cons_self List.mem_cons_self h.1
          have htail : ¬ Collide (xs.map (· ++ n)) (ys.map (· ++ m)) := by
            exact fun h => hc (h.mono (List.subset_cons_self _ _) (List.subset_cons_self _ _))
          rw [(List.append_inj' hxy hnm).1, ih htail h.2]

/-- The string that is hashed for a list shows the digests of its items. -/
theorem map_eq_of_listInput_eq {n m : Bytes} (hnm : n.length = m.length) {xs ys : List Bytes}
    (h : listInput xs n = listInput ys m) :
    xs.map (saltedDigest · n) = ys.map (saltedDigest · m) :=
  map_eq_of_flatMap_eq (List.append_inj' h hnm).1

/-- Every entry gives two fields, so fields that are equal come from equal pairs. -/
theorem entryFields_eq_iff {m m' : Message} :
    entryFields m = entryFields m' ↔ m.pairs = m'.pairs := by
  obtain ⟨es⟩ := m
  obtain ⟨fs⟩ := m'
  simp only [entryFields, Message.pairs]
  induction es generalizing fs with
  | nil => cases fs <;> simp
  | cons e es ih =>
      cases fs with
      | nil => simp
      | cons f fs => simp [ih, and_assoc]

/-- The parts of the string whose digest is the commitment: the digests of the fields, of
the recipients and of the entries. -/
theorem parts_eq_of_rootInput_eq {s t : Subject} (h : s.rootInput = t.rootInput) :
    s.fields.flatMap (saltedDigest · s.secretNonce.bytes) =
        t.fields.flatMap (saltedDigest · t.secretNonce.bytes) ∧
      Blake2s.digest (listInput s.recipients s.secretNonce.bytes) =
        Blake2s.digest (listInput t.recipients t.secretNonce.bytes) ∧
      Blake2s.digest (listInput (entryFields s.message) s.secretNonce.bytes) =
        Blake2s.digest (listInput (entryFields t.message) t.secretNonce.bytes) := by
  have hlen (x y : Bytes) : (Blake2s.digest x).length = (Blake2s.digest y).length := by
    rw [Blake2s.length_digest, Blake2s.length_digest]
  obtain ⟨hinit, hentries⟩ := List.append_inj' h (hlen _ _)
  obtain ⟨hfields, hrecipients⟩ := List.append_inj' hinit (hlen _ _)
  exact ⟨hfields, hrecipients, hentries⟩

/-- Equal commitments are commitments to subjects that agree, or strings that were hashed
for them collide. -/
theorem agree_or_collide_of_digest_eq {s t : Subject} (h : s.digest = t.digest) :
    s.Agree t ∨ Collide s.hashed t.hashed := by
  refine or_iff_not_imp_right.mpr fun hc => ?_
  have hlen : s.secretNonce.bytes.length = t.secretNonce.bytes.length :=
    s.secretNonce.length_bytes.trans t.secretNonce.length_bytes.symm
  have hitems {xs ys : List Bytes}
      (hx : xs ⊆ s.fields ++ s.recipients ++ entryFields s.message)
      (hy : ys ⊆ t.fields ++ t.recipients ++ entryFields t.message)
      (hm : xs.map (saltedDigest · s.secretNonce.bytes) =
        ys.map (saltedDigest · t.secretNonce.bytes)) : xs = ys :=
    eq_of_map_saltedDigest_eq hlen (fun hcol => hc (hcol.mono
      (fun _ hmem => List.mem_append_left _ (List.map_subset _ hx hmem))
      (fun _ hmem => List.mem_append_left _ (List.map_subset _ hy hmem)))) hm
  have hroot : s.rootInput = t.rootInput :=
    eq_of_digest_eq hc (by simp [Subject.hashed]) (by simp [Subject.hashed]) h
  obtain ⟨hfields, hrecipients, hentries⟩ := parts_eq_of_rootInput_eq hroot
  have hf : s.fields = t.fields :=
    hitems (by simp [List.append_assoc]) (by simp [List.append_assoc])
      (map_eq_of_flatMap_eq hfields)
  have hr : s.recipients = t.recipients :=
    hitems (by simp) (by simp) (map_eq_of_listInput_eq hlen
      (eq_of_digest_eq hc (by simp [Subject.hashed]) (by simp [Subject.hashed]) hrecipients))
  have he : entryFields s.message = entryFields t.message :=
    hitems (by simp) (by simp) (map_eq_of_listInput_eq hlen
      (eq_of_digest_eq hc (by simp [Subject.hashed]) (by simp [Subject.hashed]) hentries))
  simp only [Subject.fields, List.cons.injEq, and_true] at hf
  obtain ⟨horigin, hpublic, hnonce, hrelay, hsender⟩ := hf
  exact
    { origin := horigin, publicNonce := hpublic, sender := hsender, relay := hrelay
      secretNonce := Nonce.ext hnonce, recipients := hr, pairs := entryFields_eq_iff.mp he }

/-- Subjects that agree have one commitment: kinds do not enter it. -/
theorem Subject.Agree.digest_eq {s t : Subject} (h : s.Agree t) : s.digest = t.digest := by
  have hfields : s.fields = t.fields := by
    simp [Subject.fields, h.origin, h.publicNonce, h.sender, h.relay, h.secretNonce]
  have hentries : entryFields s.message = entryFields t.message :=
    entryFields_eq_iff.mpr h.pairs
  simp only [Subject.digest, Subject.rootInput, hfields, hentries, h.secretNonce, h.recipients]

end Commitment
end SealedPost
