/-
How a watch tells objects of one kind apart: by the name and, if the object says one, the namespace.

An address has a namespace in every case, because an object is stored in one. A watch only has what an object
says of itself, and an object may say nothing of a namespace. That is a case of its own: it designates another
object than the empty namespace does.
-/
import TrainingJobs.Object.Metadata

set_option autoImplicit false

namespace TrainingJobs

/-- What an object of a known kind goes by. -/
structure Designation where
  /-- The namespace, if one is said. -/
  ns : Option String
  name : String
  deriving DecidableEq, Repr, Inhabited

namespace Designation

/-- Designations are ordered by namespace, those without one first, and by name within one. -/
instance : Ord Designation where
  compare := compareLex (compareOn Designation.ns) (compareOn Designation.name)

instance : Std.TransOrd Designation :=
  inferInstanceAs (Std.TransCmp (compareLex (compareOn Designation.ns) (compareOn Designation.name)))

instance : Std.LawfulEqOrd Designation where
  compare_self := Std.ReflCmp.compare_self
  eq_of_compare := by
    intro a b h
    change (compare a.ns b.ns).then (compare a.name b.name) = .eq at h
    rw [Ordering.then_eq_eq] at h
    cases a; cases b
    exact congr (congrArg Designation.mk (Std.LawfulEqCmp.eq_of_compare h.1))
      (Std.LawfulEqCmp.eq_of_compare h.2)

/-- What goes by the same name and says nothing of a namespace. -/
def withoutNamespace (d : Designation) : Designation := { d with ns := none }

end Designation

/-- What an object goes by. -/
def designationOf {α : Type} [HasMetadata α] (object : α) : Designation :=
  let metadata := HasMetadata.metadata object
  ⟨metadata.ns, metadata.anyName⟩

end TrainingJobs
