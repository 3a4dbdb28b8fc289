/-
The platform's side of a watch on one kind of object.

A feed gives the objects it has delivered when it is asked for a list, and sends events while a watch is
open. Which objects there are now, and which of them the operator has been told of, are two things: a feed
tells of the difference only when it is made to.
-/
import TrainingJobs.Object.Metadata
import TrainingJobs.Watch.Update

set_option autoImplicit false

namespace TrainingJobs

/-- An open watch. -/
structure EventStream (α : Type) where
  /-- The events that were sent and not yet read. -/
  events : List (WatchEvent α) := []
  /-- Whether no more will be sent. -/
  ended : Bool := false

/-- The platform's side of a watch on one kind of object. -/
structure Feed (α : Type) where
  /-- The objects that it told of. -/
  delivered : Dict Address α := ∅
  /-- How many more lists it is going to refuse. -/
  refusals : Nat := 0
  stream : Option (EventStream α) := none

namespace Feed

variable {α : Type}

/-- The version that lists are of. -/
def listVersion : String := "7"

/-- Answers a request for a list; nothing, if it refuses. -/
def list (f : Feed α) : Option (List α) × Feed α :=
  match f.refusals with
  | 0 => (some f.delivered.values, f)
  | n + 1 => (none, { f with refusals := n })

def watch (f : Feed α) : Feed α := { f with stream := some {} }

def hangUp (f : Feed α) : Feed α := { f with stream := none }

/-- Sends events, if there is a watch to send them to. -/
def send (f : Feed α) (events : List (WatchEvent α)) : Feed α :=
  { f with stream := f.stream.map fun s => if s.ended then s else { s with events := s.events ++ events } }

def close (f : Feed α) : Feed α := { f with stream := f.stream.map fun s => { s with ended := true } }

/-- The events that tell of what differs from what was delivered: first what has appeared or was changed,
then what has vanished. -/
def news [DecidableEq α] (f : Feed α) (visible : Dict Address α) : List (WatchEvent α) :=
  (visible.entries.filterMap fun (a, object) =>
    match f.delivered.get? a with
    | none => some (.added object)
    | some old => if old = object then none else some (.modified object)) ++
  (f.delivered.entries.filterMap fun (a, old) => if visible.contains a then none else some (.deleted old))

/-- Delivers what there is to see. -/
def deliver [DecidableEq α] (f : Feed α) (visible : Dict Address α) : Feed α :=
  { f.send (f.news visible) with delivered := visible }

/-- The code of an error that makes a follower list everything anew. -/
def expired : Nat := 410

/-- Takes over what there is to see without telling of it, and lets the watch expire. -/
def expire (f : Feed α) (visible : Dict Address α) : Feed α :=
  { f.send [.error expired] with delivered := visible }

end Feed

end TrainingJobs
