/-
Training jobs: what is asked for and what is known, under one name.
-/
import TrainingJobs.Job.Spec
import TrainingJobs.Job.Status

set_option autoImplicit false

namespace TrainingJobs

/-- A training job. -/
structure Job where
  metadata : Metadata
  spec : JobSpec
  /-- What is known, once something is. -/
  status : Option JobStatus
  deriving DecidableEq, Inhabited

instance : HasMetadata Job where
  metadata := Job.metadata
  withMetadata object m := { object with metadata := m }

namespace Job

def group : String := "xgboostjob.kubeflow.org"

def version : String := "v1"

def apiVersion : String := group ++ "/" ++ version

def kind : String := "XGBoostJob"

def plural : String := "xgboostjobs"

/-- Under which name the operator reports. -/
def controllerName : String := "xgboostjob-operator"

/-- The container of a pod that runs the training. -/
def containerName : String := "xgboostjob"

/-- The name of the port at which the replicas meet. -/
def portName : String := "xgboostjob-port"

/-- The port at which the replicas meet, unless the template names one. -/
def defaultPort : Int := 9999

def name (job : Job) : String := job.metadata.anyName

def ns (job : Job) : String := job.metadata.ns.getD ""

def address (job : Job) : Address := job.metadata.address

/-- What is known of the job: nothing, at first (`job_status`). -/
def currentStatus (job : Job) : JobStatus := job.status.getD {}

def totalReplicas (job : Job) : Int32 := job.spec.totalReplicas

def isLeaving (job : Job) : Bool := job.metadata.deletionTimestamp.isSome

def encode (job : Job) : Json :=
  .ofFields [("apiVersion", some (.str apiVersion)), ("kind", some (.str kind)),
    ("metadata", some job.metadata.encode), ("spec", some job.spec.encode),
    ("status", job.status.map JobStatus.encode)]

/-- Reads a job. The version and kind that the text names are passed over. -/
def decode (j : Json) : Option Job := do
  let m ← j.ownMembers? ["metadata", "spec", "status"] 3
  some {
    metadata := ← Json.required m "metadata" Metadata.decode
    spec := ← Json.required m "spec" JobSpec.decode
    status := ← Json.optional m "status" JobStatus.decode }

end Job

end TrainingJobs
