/-! # The feed of announcements

Each subscriber has a cursor: the first index that did not come with the backlog. A live
event goes to the subscribers whose cursor it has reached. Subscribers stand in the order
in which they registered; registering again moves the cursor and keeps the place. -/

namespace SealedPost

/-- Subscribers with their cursors. -/
structure Feed (Socket : Type) where
  cursors : List (Socket × Int)

namespace Feed

variable {Socket : Type} [DecidableEq Socket]

/-- A feed without subscribers. -/
def empty : Feed Socket := ⟨[]⟩

/-- The cursor after a backlog: past its last event, or where the subscriber wanted to
start if there was none. -/
def cursorAfter (since : Int) (backlog : List Int) : Int :=
  match backlog.getLast? with
  | some last => last + 1
  | none => since

/-- Sets the cursor of a socket. -/
def setCursor (socket : Socket) (cursor : Int) : List (Socket × Int) → List (Socket × Int)
  | [] => [(socket, cursor)]
  | (s, c) :: rest =>
    if s = socket then (socket, cursor) :: rest else (s, c) :: setCursor socket cursor rest

/-- Registers a socket that gets the events of a backlog at once. -/
def subscribe (f : Feed Socket) (socket : Socket) (since : Int) (backlog : List Int) :
    Feed Socket :=
  ⟨setCursor socket (cursorAfter since backlog) f.cursors⟩

/-- Drops a socket. -/
def disconnect (f : Feed Socket) (socket : Socket) : Feed Socket :=
  ⟨f.cursors.filter fun entry => entry.1 ≠ socket⟩

/-- The sockets that an event goes to, in the order of their registration. -/
def audience (f : Feed Socket) (index : Int) : List Socket :=
  (f.cursors.filter fun entry => entry.2 ≤ index).map Prod.fst

/-- The cursor of a socket. -/
def cursor? (f : Feed Socket) (socket : Socket) : Option Int := f.cursors.lookup socket

theorem cursor?_disconnect_self (f : Feed Socket) (socket : Socket) :
    (f.disconnect socket).cursor? socket = none := by
  simp only [cursor?, disconnect, List.lookup_eq_none_iff, List.mem_filter]
  rintro entry ⟨_, h⟩
  have h' : entry.1 ≠ socket := by simpa using h
  simp [Ne.symm h']

end Feed
end SealedPost
