import CallGuard.Policy
import CallGuard.Timestamp

/-! # Audit events

An event records one change of one entry of a policy, with a note. Replaying events on a policy makes their changes
again. -/

namespace CallGuard

/-- What happened to an entry. -/
inductive Change where
  /-- The entry was allowed. -/
  | approved
  /-- The entry was removed. -/
  | removed
  deriving DecidableEq, Repr

namespace Change

/-- The name of a change, as it stands in the names of events. -/
def name : Change → String
  | .approved => "Approved"
  | .removed => "Removed"

/-- The tag of a change, as it stands in stored events. -/
def tag : Change → String
  | .approved => "approved"
  | .removed => "removed"

/-- The change of a tag. -/
def ofTag? (tag : String) : Option Change :=
  [approved, removed].find? fun change => change.tag = tag

end Change

/-- The policy after a change of one entry. -/
def Policy.apply (p : Policy) : Change → Key → Policy
  | .approved, key => p.allow key
  | .removed, key => p.remove key

/-- The record of one change of a policy. -/
structure Event where
  /-- The number of events recorded before this one, below `2 ^ 64` in every event that is stored. -/
  seq : Nat
  /-- The name of the event. -/
  name : String
  /-- What happened to the entry. -/
  change : Change
  /-- The entry. -/
  key : Key
  /-- A remark of the caller. -/
  note : String
  /-- When it happened. -/
  time : Timestamp
  deriving DecidableEq

/-- The name of the event of a change of an entry. -/
def Event.nameOf (change : Change) (key : Key) : String :=
  key.kind.name ++ change.name

/-- The policy after the changes that events record. -/
def Policy.replay (p : Policy) (events : List Event) : Policy :=
  events.foldl (fun q e => q.apply e.change e.key) p

end CallGuard
