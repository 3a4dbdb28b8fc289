/-
One pass over a job.

The job is read anew and its spec filled in. A spec that is not acceptable fails the job at once; a job that
is leaving is left alone; while something asked for earlier is outstanding, nothing is done. Then the limits
are looked at. A job over a limit, or with a verdict, is brought to its end; any other has its pods and
services brought in line, type by type, and is judged by their counts. The status is written when it changed.
-/
import TrainingJobs.Controller.Termination
import TrainingJobs.Job.Defaults
import TrainingJobs.Job.Validation
import TrainingJobs.Job.Verdict

set_option autoImplicit false

namespace TrainingJobs

/-- Whether the pod is neither finished nor leaving (`is_active`). -/
def Pod.isActive (p : Pod) : Bool :=
  !p.isLeaving && p.phase? != some "Succeeded" && p.phase? != some "Failed"

/-- How often the containers of a pod were started again in place. -/
def Pod.restartCount (p : Pod) : Int32 :=
  match p.status with
  | none => 0
  | some status =>
    let reports := status.initContainerStatuses.getD [] ++ status.containerStatuses.getD []
    sum32 (·.restartCount) reports

namespace Job

/-- How often containers of the job were started again in place, in running pods of the replica types that do
so. -/
def restartsInPlace (job : Job) (pods : List Pod) : Int32 :=
  job.spec.replicaSpecs.entries |> sum32 fun e =>
    if e.2.restart.restartsInPlace then
      sum32 Pod.restartCount ((ofReplicaType e.1 pods).filter fun p => p.phase? == some "Running")
    else 0

/-- Whether restarts in place have used up the retries (`past_backoff_limit`). -/
def restartsPastLimit (job : Job) (pods : List Pod) (limit : Int) : Bool :=
  if limit = 0 then decide (0 < job.restartsInPlace pods) else decide (limit ≤ (job.restartsInPlace pods : Int))

/-- Whether a pod failed that was not counted as failed before, and that failure is one too many. -/
def failuresPastLimit (job : Job) (pods : List Pod) (retries : Nat) (limit : Int) : Bool :=
  decide (job.currentStatus.failedCount < .ofNat (phaseCount "Failed" pods)) &&
    decide (.ofNat (pods.countP Pod.isActive) ≠ job.totalReplicas) &&
    decide (limit < (retries : Int) + 1)

/-- The longest deadline that can be asked for, in seconds; no more than this can be left of one. -/
def longestDeadline : Int := 9223372036854775807

/-- How many seconds the job may still be active: nothing is said of one without a deadline
(`active_deadline_remaining`). -/
def deadlineSeconds? (job : Job) (status : JobStatus) (now : Timestamp) : Option Nat := do
  let deadline ← job.spec.runPolicy.activeDeadlineSeconds
  let start ← status.startTime
  let left := deadline - now.wholeSecondsSince start
  some (if left < longestDeadline then left else longestDeadline).toNat

/-- Why the job has to be given up, if it has gone over a limit. -/
def exceeded? (job : Job) (pods : List Pod) (retries : Nat) (status : JobStatus) (now : Timestamp) :
    Option String :=
  let pastBackoff := match job.spec.runPolicy.backoffLimit with
    | some limit => job.failuresPastLimit pods retries limit || job.restartsPastLimit pods limit
    | none => false
  if pastBackoff then
    some ("XGBoostJob " ++ job.name ++ " has failed because it has reached the specified backoff limit")
  else if job.deadlineSeconds? status now = some 0 then
    some ("XGBoostJob " ++ job.name
      ++ " has failed because it was active longer than specified deadline")
  else none

/-- The status of a job that the controller has taken in. -/
def takenIn (job : Job) (now : Timestamp) : JobStatus :=
  let status := job.currentStatus
  let status := { status with startTime := some (status.startTime.getD now) }
  if status.holds .created then status
  else status.note .created Reason.jobCreated ("XGBoostJob " ++ job.name ++ " is created.") now

/-- The keys under which changes to the job are expected. -/
def expectationKeys (job : Job) : List ExpectationKey :=
  job.spec.replicaSpecs.keys.flatMap fun replicaType =>
    [.of job.key replicaType .pods, .of job.key replicaType .services]

/-- The pod group of a job, which waits for the least number of pods that the job gives, or else for all replicas. -/
def podGroupFor (job : Job) (owner : OwnerReference) : PodGroup where
  metadata := {
    name := some (podGroupName job.name)
    ns := some job.ns
    ownerReferences := some [owner] }
  minMember := job.spec.runPolicy.minAvailable.getD job.totalReplicas

end Job

namespace Expectations

/-- How long until the first of the records expires that hold things up, if any do (`pending_expectations`). -/
def firstPending (e : Expectations) (keys : List ExpectationKey) (now : Timestamp) : Option Duration :=
  keys.foldl (fun acc key =>
    match acc, e.pending key now with
    | some a, some b => some (a.min b)
    | some a, none => some a
    | none, b => b) none

end Expectations

namespace Controller

variable {σ : Type}

/-- Whether nothing that was asked for on behalf of the job is outstanding (`satisfied_expectations`). -/
def expectationsSatisfied (now : Timestamp) (job : Job) (c : Controller σ) : Bool :=
  (c.expectations.firstPending job.expectationKeys now).isNone

variable [ObjectStore σ]

/-- Fails a job whose spec is not acceptable (`reject_invalid_job`). Nothing is done if it has failed already. -/
def reject (now : Timestamp) (job : Job) (fault : SpecFault) : ControllerM σ Unit := do
  let status := job.currentStatus
  if status.isFailed then return
  let message := "Failed to validate XGBoostJob " ++ job.name ++ ": " ++ fault.toError.message
  tell (job.warningEvent Reason.invalidSpec message)
  let status := status.note .failed Reason.invalidSpec message now
  request (ObjectStore.updateJobStatus job { status with lastReconcileTime := some now })

/-- Creates the pod group of a job, unless there is one (`sync_pod_group`). -/
def ensurePodGroup (job : Job) : ControllerM σ Unit := do
  if (← request (ObjectStore.getPodGroup ⟨job.ns, podGroupName job.name⟩)).isNone then
    let owner ← settle job.ownerReference
    match ← attempt (request (ObjectStore.createPodGroup job.ns (job.podGroupFor owner))) with
    | .ok _ => pure ()
    | .error e => if e.isConflict then pure () else throw e

/-- Brings the pods and services of all replica types in line, in turn. The result is the status with all
pods counted, and how many pods are being replaced. -/
def reconcileReplicas (now : Timestamp) (job : Job) (pods : List Pod) (services : List Service) :
    List (String × ReplicaSpec) → JobStatus → ControllerM σ (JobStatus × Nat)
  | [], status => return (status, 0)
  | (replicaType, spec) :: rest, status => do
    let replaced ← reconcilePods now job replicaType spec pods
    reconcileServices now job replicaType spec services
    let status := countPods replicaType (podPlan replicaType spec pods) status
    let (status, more) ← reconcileReplicas now job pods services rest status
    return (status, replaced + more)

/-- Judges the job by the counts in the status. -/
def judge (now : Timestamp) (job : Job) (status : JobStatus) : ControllerM σ JobStatus := do
  let judgement := job.judge now status
  tellAll judgement.events
  match judgement.error with
  | some e => throw e
  | none => return judgement.status

/-- A pass over a job that is not at its end. -/
def advance (now : Timestamp) (job : Job) (pods : List Pod) (services : List Service) (status : JobStatus) :
    ControllerM σ Outcome := do
  let (status, replaced) ← reconcileReplicas now job pods services job.spec.replicaSpecs.entries status
  let status ← judge now job status
  persist now job status
  if 0 < replaced then return .backoff
  if status.isFinished then return .wait
  match job.deadlineSeconds? status now with
  | some seconds => return .requeue (.ofSeconds seconds)
  | none => return .wait

/-- Looks at the pods and services of a job and does what is to be done (`reconcile_jobs`). -/
def reconcileJob (now : Timestamp) (job : Job) : ControllerM σ Outcome := do
  let selector := Labels.ofJob Job.group job.name
  let pods ← request (ObjectStore.listPods job.ns selector)
  let services ← request (ObjectStore.listServices job.ns selector)
  let status := job.takenIn now
  let retries := (← get).retries.count job.key
  let failure := job.exceeded? pods retries status now
  if status.isFinished || failure.isSome then terminate now job pods status failure
  else advance now job pods services status

/-- A pass over the job that is stored under a key (`sync_job`). -/
def sync (now : Timestamp) (key : String) : ControllerM σ Outcome := do
  let (ns, name) ← settle (splitKey key)
  match ← request (ObjectStore.getJob ⟨ns, name⟩) with
  | none =>
    expecting fun x => x.deleteJob key
    return .done
  | some stored =>
    let job := stored.withDefaults
    match job.spec.fault? with
    | some fault =>
      reject now job fault
      return .done
    | none =>
      if job.isLeaving then return .done
      -- Expired records hold nothing up, so the job comes back even if the watch never reports the change.
      match (← get).expectations.firstPending job.expectationKeys now with
      | some wait => return .requeue wait
      | none =>
        -- The pod group of a finished job was deleted and stays gone; without a group the pods can still run.
        if (← get).config.gang && !job.currentStatus.isFinished then
          let _ ← attempt (ensurePodGroup job)
        reconcileJob now job

end Controller

end TrainingJobs
