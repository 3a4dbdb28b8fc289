/-
The lookout: it keeps a copy of the objects of a kind from the updates it is given, and tells what has
appeared and what has vanished.

An update does not say by itself whether an object is new: a changed object and a new one are both applied.
The lookout knows the difference by looking at its copy *before* it takes the update over. After objects were
listed anew, what is in the copy and was not listed has vanished unseen, and is reported then. For every
object the reports therefore take turns, beginning with its appearance.

An object that says nothing of a namespace is taken to be in all of them when something is looked for, but not
when lists are compared.
-/
import TrainingJobs.Object.Designation
import TrainingJobs.Watch.Update

set_option autoImplicit false

namespace TrainingJobs

/-- A copy of the objects of a kind. -/
structure Reflection (α : Type) where
  /-- The objects, as last heard of. -/
  objects : Dict Designation α := ∅
  /-- The objects of the list under way. -/
  incoming : Dict Designation α := ∅
  /-- Whether the objects were ever listed to the end. -/
  ready : Bool := false

/-- That an object has appeared or vanished. -/
inductive Change (α : Type) where
  | added (object : α)
  | deleted (object : α)
  deriving DecidableEq, Repr

/-- A copy of the objects, and what it takes to tell what is new. -/
structure Lookout (α : Type) where
  reflection : Reflection α := {}
  /-- What the list under way has brought, while one is under way. -/
  listed : Option (List Designation) := none

variable {α : Type} [HasMetadata α]

namespace Reflection

/-- What is there under a designation: the object that goes by it, or else the one of the same name that says nothing
of a namespace (`get`). -/
def find? (r : Reflection α) (d : Designation) : Option α :=
  (r.objects.get? d).or (r.objects.get? d.withoutNamespace)

/-- The copy after an update. A list is collected on the side and takes the place of the copy when it is
done; one that is begun anew is collected anew. -/
def apply (r : Reflection α) : WatchUpdate α → Reflection α
  | .restarted => { r with incoming := ∅ }
  | .relisted object => { r with incoming := r.incoming.insert (designationOf object) object }
  | .relistDone => { objects := r.incoming, incoming := ∅, ready := true }
  | .applied object => { r with objects := r.objects.insert (designationOf object) object }
  | .deleted object => { r with objects := r.objects.erase (designationOf object) }

end Reflection

namespace Lookout

/-- The objects of the copy that a list did not bring. -/
def unlisted (l : Lookout α) (listed : List Designation) : List α :=
  l.reflection.objects.values.filter fun object => !listed.contains (designationOf object)

/-- What an update means to have appeared and vanished (`changes`). -/
def changes (l : Lookout α) : WatchUpdate α → List (Change α)
  | .restarted => []
  | .relisted object | .applied object =>
    if (l.reflection.find? (designationOf object)).isSome then [] else [.added object]
  | .deleted object => [.deleted object]
  | .relistDone =>
    match l.listed with
    | some listed => (l.unlisted listed).map .deleted
    | none => []

/-- What the list under way has brought after an update. -/
def listedAfter (l : Lookout α) : WatchUpdate α → Option (List Designation)
  | .restarted => some []
  | .relisted object | .applied object => l.listed.map (designationOf object :: ·)
  | .deleted _ => l.listed
  | .relistDone => none

/-- Takes an update over, and tells what it changes (`observed_stream`). -/
def hear (l : Lookout α) (u : WatchUpdate α) : List (Change α) × Lookout α :=
  (l.changes u, { reflection := l.reflection.apply u, listed := l.listedAfter u })

/-- Takes updates over one after another, and tells what they change. -/
def hearAll (l : Lookout α) : List (WatchUpdate α) → List (Change α) × Lookout α
  | [] => ([], l)
  | u :: us =>
    let (changes, l) := l.hear u
    let (more, l) := l.hearAll us
    (changes ++ more, l)

end Lookout

end TrainingJobs
