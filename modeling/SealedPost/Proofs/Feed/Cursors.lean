import SealedPost.Feed
import SealedPost.Proofs.Lookup
import Mathlib.Data.List.Nodup

/-!
# Cursors of a feed

A feed has one cursor for each subscriber. Registering or dropping a socket leaves the
cursors of all others alone, and an event goes once to each socket whose cursor it has
reached.
-/

namespace SealedPost.Feed

variable {Socket : Type} {f : Feed Socket}

/-- No socket is registered twice. -/
def Distinct (f : Feed Socket) : Prop := (f.cursors.map Prod.fst).Nodup

theorem distinct_empty : (empty : Feed Socket).Distinct := List.nodup_nil

theorem Distinct.nodup_audience (h : f.Distinct) (index : Int) : (f.audience index).Nodup :=
  h.sublist (List.filter_sublist.map _)

variable [DecidableEq Socket] {socket other : Socket}

theorem lookup_setCursor_self (socket : Socket) (cursor : Int) (cursors : List (Socket × Int)) :
    (setCursor socket cursor cursors).lookup socket = some cursor := by
  induction cursors with
  | nil => simp [setCursor]
  | cons entry rest ih =>
      by_cases h : entry.1 = socket
      · simp [setCursor, h]
      · have hne : (socket == entry.1) = false := beq_false_of_ne (Ne.symm h)
        rw [setCursor, if_neg h, List.lookup_cons, hne]
        exact ih

theorem lookup_setCursor_of_ne (h : other ≠ socket) (cursor : Int)
    (cursors : List (Socket × Int)) :
    (setCursor socket cursor cursors).lookup other = cursors.lookup other := by
  have hother : (other == socket) = false := beq_false_of_ne h
  induction cursors with
  | nil => simp [setCursor, List.lookup_cons, hother]
  | cons entry rest ih =>
      by_cases hentry : entry.1 = socket
      · obtain ⟨s, c⟩ := entry
        obtain rfl : s = socket := hentry
        rw [setCursor, if_pos rfl, List.lookup_cons, List.lookup_cons, hother]
      · rw [setCursor, if_neg hentry, List.lookup_cons, List.lookup_cons, ih]

/-- A socket that is registered keeps its place, a new one comes last. -/
theorem map_fst_setCursor (socket : Socket) (cursor : Int) (cursors : List (Socket × Int)) :
    (setCursor socket cursor cursors).map Prod.fst =
      if socket ∈ cursors.map Prod.fst then cursors.map Prod.fst
      else cursors.map Prod.fst ++ [socket] := by
  induction cursors with
  | nil => simp [setCursor]
  | cons entry rest ih =>
      by_cases hentry : entry.1 = socket
      · simp [setCursor, hentry]
      · rw [setCursor, if_neg hentry, List.map_cons, ih]
        simp only [List.map_cons, List.mem_cons, Ne.symm hentry, false_or, List.cons_append]
        split <;> rfl

@[simp] theorem cursor?_subscribe_self (f : Feed Socket) (socket : Socket) (since : Int)
    (backlog : List Int) :
    (f.subscribe socket since backlog).cursor? socket = some (cursorAfter since backlog) :=
  lookup_setCursor_self ..

theorem cursor?_subscribe_of_ne (h : other ≠ socket) (f : Feed Socket) (since : Int)
    (backlog : List Int) :
    (f.subscribe socket since backlog).cursor? other = f.cursor? other :=
  lookup_setCursor_of_ne h ..

theorem Distinct.subscribe (h : f.Distinct) (socket : Socket) (since : Int)
    (backlog : List Int) : (f.subscribe socket since backlog).Distinct := by
  rw [Distinct, Feed.subscribe, map_fst_setCursor]
  split
  · exact h
  · next hnew => exact List.nodup_append_comm.mp (List.nodup_cons.mpr ⟨hnew, h⟩)

theorem Distinct.disconnect (h : f.Distinct) (socket : Socket) :
    (f.disconnect socket).Distinct :=
  h.sublist (List.filter_sublist.map _)

/-- In a feed without doubles the registered cursors are what is looked up. -/
theorem Distinct.cursor?_eq_some_iff (h : f.Distinct) {cursor : Int} :
    f.cursor? socket = some cursor ↔ (socket, cursor) ∈ f.cursors :=
  Lookup.lookup_eq_some_iff_mem h

theorem Distinct.cursor?_disconnect_of_ne (h : f.Distinct) (hne : other ≠ socket) :
    (f.disconnect socket).cursor? other = f.cursor? other := by
  refine Option.ext fun cursor => ?_
  rw [(h.disconnect socket).cursor?_eq_some_iff, h.cursor?_eq_some_iff, Feed.disconnect,
    List.mem_filter]
  simp [hne]

/-- An event goes to the sockets whose cursor it has reached. -/
theorem Distinct.mem_audience_iff (h : f.Distinct) {index : Int} :
    socket ∈ f.audience index ↔ ∃ cursor, f.cursor? socket = some cursor ∧ cursor ≤ index := by
  simp [audience, h.cursor?_eq_some_iff]

end SealedPost.Feed
