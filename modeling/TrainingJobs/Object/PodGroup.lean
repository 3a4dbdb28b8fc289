/-
Pod groups: requests to the gang scheduler to place a number of pods together or not at all.
-/
import TrainingJobs.Object.Metadata

set_option autoImplicit false

namespace TrainingJobs

/-- A group of pods that are placed together. -/
structure PodGroup where
  metadata : Metadata
  /-- How many pods have to be placeable at once. -/
  minMember : Int
  deriving DecidableEq, Inhabited

instance : HasMetadata PodGroup where
  metadata := PodGroup.metadata
  withMetadata object m := { object with metadata := m }

namespace PodGroup

def group : String := "scheduling.incubator.k8s.io"

def version : String := "v1alpha1"

def apiVersion : String := group ++ "/" ++ version

def kind : String := "PodGroup"

def plural : String := "podgroups"

/-- The scheduler that understands pod groups, unless another one is configured. -/
def defaultScheduler : String := "kube-batch"

def encode (g : PodGroup) : Json :=
  .obj [("apiVersion", .str apiVersion), ("kind", .str kind), ("metadata", g.metadata.encode),
    ("spec", .obj [("minMember", .int g.minMember)])]

def decode (j : Json) : Option PodGroup := do
  let m ← j.ownMembers? ["metadata", "spec"] 2
  let metadata ← Json.required m "metadata" Metadata.decode
  let minMember ← Json.required m "spec" fun j => do
    Json.required (← j.ownMembers? ["minMember"] 1) "minMember" (Json.decodeInt 32)
  some ⟨metadata, minMember⟩

end PodGroup

end TrainingJobs
