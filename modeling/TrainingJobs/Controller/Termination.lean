/-
The end of a job: what is cleaned up, what is written down, and when the job itself goes.

A job is at its end when there is a verdict on it or when it has just gone over a limit. Its pods are deleted
as far as its policy says, each with its service, then its pod group; only then the verdict is written. A
finished job with a time to live is deleted when that has passed.
-/
import TrainingJobs.Controller.Services

set_option autoImplicit false

namespace TrainingJobs

/-- Whether a pod is deleted when its job is at its end. One that is leaving already is left alone. -/
def Pod.isCleanedUp (p : Pod) (policy : CleanPodPolicy) : Bool :=
  match policy with
  | .none => false
  | .all => !p.isLeaving
  | .running => !p.isLeaving && (p.phase? == some "Running" || p.phase? == some "Pending")

/-- What a finished job waits for. -/
inductive Cleanup where
  | kept
  | deleted
  /-- The end of its time to live. -/
  | due (remaining : Duration)
  deriving DecidableEq, Repr

/-- How a pass over a job ended. -/
inductive Outcome where
  | requeue (delay : Duration)
  /-- There is something to do again, and it counts as a retry. -/
  | backoff
  /-- There is nothing to do until something changes. -/
  | wait
  /-- There is nothing to do, and the retries of the job are forgotten. -/
  | done
  deriving DecidableEq, Repr

/-- How long a finished job still has to live: nothing is said of one that stays forever. -/
def Job.timeToLive? (job : Job) (status : JobStatus) (now : Timestamp) : Option Int := do
  let ttl ← job.spec.runPolicy.ttlSecondsAfterFinished
  let completed ← status.completionTime
  some ((completed.addSeconds ttl).nanos - now.nanos)

/-- The status of a finished job: the running pods of a job that succeeded count as succeeded, since they may
be gone by now. -/
def JobStatus.settled (s : JobStatus) : JobStatus :=
  if s.isSucceeded then
    { s with replicaStatuses := s.replicaStatuses.mapValues fun c =>
        { c with succeeded := c.succeeded + c.active, active := 0 } }
  else s

namespace Controller

variable {σ : Type} [ObjectStore σ]

/-- Deletes pods of a job, each with its service (`delete_pods_and_services`). -/
def cleanUpPods (job : Job) : List Pod → ControllerM σ Unit
  | [] => pure ()
  | pod :: rest => do
    let replicaType := (labelOf? pod Label.replicaType).getD ""
    deletePod job (.of job.key replicaType .pods) (nameOf pod)
    deleteService job (nameOf pod)
    cleanUpPods job rest

/-- Deletes the pod group of a job, if there is one (`delete_pod_group`). -/
def deletePodGroup (job : Job) : ControllerM σ Unit := do
  let name := podGroupName job.name
  if (← request (ObjectStore.getPodGroup ⟨job.ns, name⟩)).isSome then
    tell (job.normalEvent Reason.jobTerminated "Job is terminated, deleting PodGroup")
    match ← attempt (request (ObjectStore.deletePodGroup ⟨job.ns, name⟩)) with
    | .ok () => tell (job.normalEvent Reason.podGroupDeleted ("Deleted PodGroup: " ++ name))
    | .error e =>
      if e.isNotFound then pure ()
      else
        tell (job.warningEvent Reason.podGroupNotDeleted ("Error deleting: " ++ e.message))
        throw e

/-- Deletes a job. One that is gone already is fine. -/
def deleteJob (job : Job) : ControllerM σ Unit := do
  match ← attempt (request (ObjectStore.deleteJob job.address)) with
  | .ok () => tell (job.normalEvent Reason.jobDeleted ("Deleted job: " ++ job.name))
  | .error e =>
    if e.isNotFound then pure ()
    else
      tell (job.warningEvent Reason.jobNotDeleted ("Error deleting: " ++ e.message))
      throw e

/-- Deletes a finished job if its time to live has passed (`cleanup_job`). -/
def cleanUpJob (now : Timestamp) (job : Job) (status : JobStatus) : ControllerM σ Cleanup := do
  match job.timeToLive? status now with
  | none => return .kept
  | some remaining =>
    if 0 < remaining then return .due ⟨remaining.toNat⟩
    deleteJob job
    return .deleted

/-- Writes a status, unless it is the one that is known already (`persist_status`). -/
def persist (now : Timestamp) (job : Job) (status : JobStatus) : ControllerM σ Unit := do
  if status ≠ job.currentStatus then
    request (ObjectStore.updateJobStatus job { status with lastReconcileTime := some now })

/-- The status with the job given up, for the given reason if there is one. -/
def giveUp (now : Timestamp) (failure : Option String) (status : JobStatus) : JobStatus :=
  match failure with
  | some message => (status.complete now).note .failed Reason.jobFailed message now
  | none => status

/-- Brings a job to its end (`terminate_job`). `failure` says why it is given up, if that is only now decided. -/
def terminate (now : Timestamp) (job : Job) (pods : List Pod) (status : JobStatus)
    (failure : Option String) : ControllerM σ Outcome := do
  cleanUpPods job (pods.filter fun p => p.isCleanedUp job.spec.runPolicy.cleaning)
  if (← get).config.gang then deletePodGroup job
  tellAll (failure.toList.map (job.normalEvent Reason.jobFailed))
  -- A failure up to here leaves the verdict unwritten, and the next pass has to reach it again.
  let status := (giveUp now failure status).settled
  match ← cleanUpJob now job status with
  | .deleted => return .done
  | .due remaining =>
    persist now job status
    return .requeue remaining
  | .kept =>
    persist now job status
    return .done

end Controller

end TrainingJobs
