import CallGuard.Audit.Event

/-! # Audit trails

A trail numbers events as they are recorded and holds them until they are taken. Taking them does not start the numbers
anew. A stored number has 64 bits, so a trail is for `2 ^ 64` events at most: further ones would be given greater
numbers here, and could not be read back. -/

namespace CallGuard

/-- The events recorded and not yet taken. -/
structure Trail where
  /-- The number of events recorded so far, taken or not; no more than `2 ^ 64`. -/
  nextSeq : Nat
  /-- The events not yet taken, the oldest first. -/
  events : List Event
  deriving DecidableEq

namespace Trail

/-- The trail on which nothing is recorded. -/
def empty : Trail := ⟨0, []⟩

/-- The event that recording a change adds to a trail. -/
def event (t : Trail) (change : Change) (key : Key) (note : String) (time : Timestamp) : Event :=
  ⟨t.nextSeq, Event.nameOf change key, change, key, note, time⟩

/-- Records a change. -/
def record (t : Trail) (change : Change) (key : Key) (note : String) (time : Timestamp) : Trail :=
  ⟨t.nextSeq + 1, t.events ++ [t.event change key note time]⟩

/-- The events not yet taken, and the trail without them. -/
def take (t : Trail) : List Event × Trail :=
  (t.events, ⟨t.nextSeq, []⟩)

end Trail

end CallGuard
