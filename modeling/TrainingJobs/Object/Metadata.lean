/-
What every stored object says about itself: its name, its labels, who owns it, and which write of it this is.

An object is addressed by namespace and name. Its name may be missing, in which case the name it is generated
from stands in, and a missing namespace counts as the empty one, so every object has an address.
-/
import TrainingJobs.Json.Field

set_option autoImplicit false

namespace TrainingJobs

/-- The address of an object among those of its kind. -/
structure Address where
  /-- The namespace; empty when the object names none. -/
  ns : String
  name : String
  deriving DecidableEq, Repr, Inhabited

namespace Address

/-- Addresses are ordered by namespace, and by name within one. -/
instance : Ord Address where
  compare := compareLex (compareOn Address.ns) (compareOn Address.name)

instance : Std.TransOrd Address :=
  inferInstanceAs (Std.TransCmp (compareLex (compareOn Address.ns) (compareOn Address.name)))

instance : Std.LawfulEqOrd Address where
  compare_self := Std.ReflCmp.compare_self
  eq_of_compare := by
    intro a b h
    change (compare a.ns b.ns).then (compare a.name b.name) = .eq at h
    rw [Ordering.then_eq_eq] at h
    cases a; cases b
    exact congr (congrArg Address.mk (Std.LawfulEqCmp.eq_of_compare h.1)) (Std.LawfulEqCmp.eq_of_compare h.2)

end Address

/-- A reference from an object to one that owns it. -/
structure OwnerReference where
  apiVersion : String
  kind : String
  name : String
  /-- Identity of the owner, which outlives its name. -/
  uid : String
  /-- Whether the owner is the one that controls the object. -/
  controller : Option Bool
  /-- Whether the owner stays until the object is gone. -/
  blockOwnerDeletion : Option Bool
  deriving DecidableEq, Repr, Inhabited

/-- Identity, labels and history of an object. -/
structure Metadata where
  name : Option String := none
  ns : Option String := none
  /-- What the name is to be generated from. -/
  generateName : Option String := none
  /-- The identity, given when the object is stored first. -/
  uid : Option String := none
  /-- The number of the write that made the object what it is. -/
  resourceVersion : Option String := none
  labels : Option (Dict String String) := none
  annotations : Option (Dict String String) := none
  /-- When the object was stored first. -/
  creationTimestamp : Option Timestamp := none
  /-- When its deletion was asked for. -/
  deletionTimestamp : Option Timestamp := none
  ownerReferences : Option (List OwnerReference) := none
  deriving DecidableEq, Inhabited

namespace Metadata

/-- The name of the object, whatever it has of one. -/
def anyName (m : Metadata) : String := (m.name.or m.generateName).getD ""

def address (m : Metadata) : Address := ⟨m.ns.getD "", m.anyName⟩

def labelsOrEmpty (m : Metadata) : Dict String String := m.labels.getD ∅

/-- The value of one label. -/
def label? (m : Metadata) (key : String) : Option String := m.labelsOrEmpty.get? key

def owners (m : Metadata) : List OwnerReference := m.ownerReferences.getD []

end Metadata

/-- A kind of object that is stored with metadata. -/
class HasMetadata (α : Type) where
  metadata : α → Metadata
  /-- The object with other metadata. -/
  withMetadata : α → Metadata → α

/-- The value of one label of an object. -/
def labelOf? {α : Type} [HasMetadata α] (object : α) (key : String) : Option String :=
  (HasMetadata.metadata object).label? key

/-- The name of an object, whatever it has of one. -/
def nameOf {α : Type} [HasMetadata α] (object : α) : String := (HasMetadata.metadata object).anyName

def addressOf {α : Type} [HasMetadata α] (object : α) : Address := (HasMetadata.metadata object).address

/-! ## JSON form -/

namespace OwnerReference

def encode (o : OwnerReference) : Json :=
  .ofFields [("apiVersion", some (.str o.apiVersion)), ("kind", some (.str o.kind)),
    ("name", some (.str o.name)), ("uid", some (.str o.uid)),
    ("controller", o.controller.map .bool), ("blockOwnerDeletion", o.blockOwnerDeletion.map .bool)]

def decode (j : Json) : Option OwnerReference := do
  let m ← j.members?
  some {
    apiVersion := ← Json.filled m "apiVersion" Json.decodeString ""
    kind := ← Json.filled m "kind" Json.decodeString ""
    name := ← Json.filled m "name" Json.decodeString ""
    uid := ← Json.filled m "uid" Json.decodeString ""
    controller := ← Json.optional m "controller" Json.decodeBool
    blockOwnerDeletion := ← Json.optional m "blockOwnerDeletion" Json.decodeBool }

end OwnerReference

namespace Metadata

def encode (m : Metadata) : Json :=
  .ofFields [("name", m.name.map .str), ("namespace", m.ns.map .str),
    ("generateName", m.generateName.map .str), ("uid", m.uid.map .str),
    ("resourceVersion", m.resourceVersion.map .str),
    ("labels", m.labels.map .ofStrings), ("annotations", m.annotations.map .ofStrings),
    ("creationTimestamp", m.creationTimestamp.map .ofTime),
    ("deletionTimestamp", m.deletionTimestamp.map .ofTime),
    ("ownerReferences", m.ownerReferences.map (.ofList OwnerReference.encode))]

def decode (j : Json) : Option Metadata := do
  let m ← j.members?
  some {
    name := ← Json.optional m "name" Json.decodeString
    ns := ← Json.optional m "namespace" Json.decodeString
    generateName := ← Json.optional m "generateName" Json.decodeString
    uid := ← Json.optional m "uid" Json.decodeString
    resourceVersion := ← Json.optional m "resourceVersion" Json.decodeString
    labels := ← Json.optional m "labels" (Json.decodeDict Json.decodeString)
    annotations := ← Json.optional m "annotations" (Json.decodeDict Json.decodeString)
    creationTimestamp := ← Json.optional m "creationTimestamp" Json.decodeTime
    deletionTimestamp := ← Json.optional m "deletionTimestamp" Json.decodeTime
    ownerReferences := ← Json.optional m "ownerReferences" (Json.decodeList OwnerReference.decode) }

end Metadata

end TrainingJobs
