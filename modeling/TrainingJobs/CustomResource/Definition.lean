/-
What the platform is told of jobs and pod groups: how they are called, how they are listed, and what form they
have.

The names of choices are those that the readers of these objects accept.
-/
import TrainingJobs.CustomResource.Schema
import TrainingJobs.Job.Basic
import TrainingJobs.Object.PodGroup

set_option autoImplicit false

namespace TrainingJobs

/-- A column in which a kind of object is listed. -/
structure PrinterColumn where
  name : String
  type : String
  path : String
  deriving DecidableEq, Repr, Inhabited

/-- What the platform is told of a kind of object. Every kind is told of in a single version, which is both
served and stored. -/
structure ResourceDefinition where
  group : String
  version : String
  kind : String
  singular : String
  plural : String
  shortNames : List String := []
  columns : List PrinterColumn := []
  /-- Whether the status is a part of its own. -/
  hasStatus : Bool := false
  schema : Schema

namespace Schema

/-- Notes that say what a value is for. -/
def about (description : String) : SchemaNotes := { description := some description }

/-- Notes on a value that may be missing. -/
def optionally (description : String) : SchemaNotes := { description := some description, nullable := true }

/-- Notes on a value that something stands in for. -/
def orElse (default : Json) (description : String) : SchemaNotes :=
  { description := some description, default := some default }

def instant (notes : SchemaNotes) : Schema := text notes (some "date-time")

/-- The form of an object of a kind with a spec, and a status perhaps. -/
def object (kind : String) (spec : Schema) (status : Option Schema) : Schema :=
  record
    { title := some kind
      description := some ("Auto-generated derived type for " ++ kind ++ "Spec via `CustomResource`") }
    (("spec", spec) :: (status.map fun s => ("status", s)).toList) ["spec"]

/-- The form of a pod template. What is in it is for the platform to check. -/
def podTemplate : Schema :=
  record (orElse (.obj []) "Pod template for every replica of this type.")
    [("metadata", anyObject {}), ("spec", anyObject {})] []

def replicaSpec : Schema :=
  record (about "Desired state of one replica type.")
    [("replicas", integer (optionally "Desired number of replicas. Defaults to 1.") 32),
      ("template", podTemplate),
      ("restartPolicy",
        choice (optionally "Restart policy. Defaults to `Never`.") (RestartPolicy.byName.map (·.1)))] []

def schedulingPolicy : Schema :=
  record (optionally "Gang scheduling options.")
    [("minAvailable",
      integer (optionally "Minimum number of pods scheduled together. Defaults to all replicas.") 32)] []

def jobSpec : Schema :=
  record
    (about ("XGBoostJob is the Schema for the xgboostjobs API.\n\n" ++
      "The controller creates one pod and one headless service per replica, wires the replicas together " ++
      "through environment variables and reports progress in the status conditions."))
    [("cleanPodPolicy",
        choice (optionally "Pods to delete once the job finishes. Defaults to `Running`.")
          (CleanPodPolicy.byName.map (·.1))),
      ("ttlSecondsAfterFinished",
        integer (optionally "Seconds to keep a finished job before deleting it.") 32),
      ("activeDeadlineSeconds",
        integer (optionally "Seconds the job may stay active before it is failed.") 64),
      ("backoffLimit", integer (optionally "Number of retries before the job is failed.") 32),
      ("schedulingPolicy", schedulingPolicy),
      ("xgbReplicaSpecs",
        map (orElse (.obj []) "Replica specs keyed by replica type (`Master`, `Worker`).") replicaSpec)] []

def condition : Schema :=
  record (about "One entry of the job condition history.")
    [("type", choice (about "Condition type.") (ConditionKind.byName.map (·.1))),
      ("status", choice (about "Condition status.") (ConditionStatus.byName.map (·.1))),
      ("reason", text (about "Machine readable reason.") none),
      ("message", text (about "Human readable message.") none),
      ("lastUpdateTime", instant (optionally "Last time the condition was updated.")),
      ("lastTransitionTime", instant (optionally "Last time the condition changed status."))]
    ["status", "type"]

def replicaCounts : Schema :=
  record (about "Per replica type pod counters, recomputed on every reconcile pass.")
    [("active", integer (orElse (.int 0) "Running pods.") 32),
      ("succeeded", integer (orElse (.int 0) "Succeeded pods.") 32),
      ("failed", integer (orElse (.int 0) "Failed pods.") 32)] []

def jobStatus : Schema :=
  record (optionally "Observed state of a training job.")
    [("conditions", list (orElse (.arr []) "Condition history, oldest first.") condition),
      ("replicaStatuses", map (orElse (.obj []) "Counters per replica type.") replicaCounts),
      ("startTime", instant (optionally "When the controller first reconciled the job.")),
      ("completionTime", instant (optionally "When the job reached a terminal condition.")),
      ("lastReconcileTime", instant (optionally "Last reconcile time."))] []

def podGroupSpec : Schema :=
  record (about "A group of pods that must be scheduled together.")
    [("minMember", integer (about "Minimum number of pods that must be schedulable at once.") 32)]
    ["minMember"]

end Schema

namespace ResourceDefinition

def job : ResourceDefinition where
  group := Job.group
  version := Job.version
  kind := Job.kind
  singular := "xgboostjob"
  plural := Job.plural
  shortNames := ["xgbjob"]
  columns := [⟨"State", "string", ".status.conditions[-1:].type"⟩,
    ⟨"Age", "date", ".metadata.creationTimestamp"⟩]
  hasStatus := true
  schema := .object Job.kind .jobSpec (some .jobStatus)

def podGroup : ResourceDefinition where
  group := PodGroup.group
  version := PodGroup.version
  kind := PodGroup.kind
  singular := "podgroup"
  plural := PodGroup.plural
  schema := .object PodGroup.kind .podGroupSpec none

def name (d : ResourceDefinition) : String := d.plural ++ "." ++ d.group

/-- Whether the objects are in namespaces: all of them are. -/
def scope (_d : ResourceDefinition) : String := "Namespaced"

def encodeNames (d : ResourceDefinition) : Json :=
  .obj [("categories", .arr []), ("kind", .str d.kind), ("plural", .str d.plural),
    ("shortNames", .arr (d.shortNames.map .str)), ("singular", .str d.singular)]

def encodeColumns (d : ResourceDefinition) : Json :=
  .arr (d.columns.map fun c =>
    .obj [("jsonPath", .str c.path), ("name", .str c.name), ("type", .str c.type)])

/-- The parts of an object that are changed on their own, as JSON. -/
def encodeParts (d : ResourceDefinition) : Json :=
  .obj (if d.hasStatus then [("status", .obj [])] else [])

def encode (d : ResourceDefinition) : Json :=
  .obj [("apiVersion", .str "apiextensions.k8s.io/v1"), ("kind", .str "CustomResourceDefinition"),
    ("metadata", .obj [("name", .str d.name)]),
    ("spec", .obj [("group", .str d.group), ("names", d.encodeNames), ("scope", .str d.scope),
      ("versions", .arr [.obj [("additionalPrinterColumns", d.encodeColumns), ("name", .str d.version),
        ("schema", .obj [("openAPIV3Schema", d.schema.encode)]), ("served", .bool true),
        ("storage", .bool true), ("subresources", d.encodeParts)]])])]

end ResourceDefinition

end TrainingJobs
