/-
What the counts of the replicas say about the job.

The master speaks for the job: the job is running while a master is, and done once all masters have
succeeded. A failed replica of any type either sets the job to restarting, if its pods are replaced by exit
code, or is the end of it. The replica types are judged one after the other, in their order, each on top of
what the ones before it have noted.
-/
import TrainingJobs.Event
import TrainingJobs.Job.Conditions

set_option autoImplicit false

namespace TrainingJobs

structure Judgement where
  status : JobStatus
  events : List Event := []
  /-- Why the judgement stopped short, if it did. -/
  error : Option OperatorError := none

namespace Job

/-- Judges whether the masters of the job are running and whether they are done. -/
def judgeMaster (job : Job) (desired : Int32) (counts : ReplicaCounts) (now : Timestamp)
    (status : JobStatus) : JobStatus × List Event :=
  let status :=
    if 0 < counts.active then
      status.note .running Reason.jobRunning ("XGBoostJob " ++ job.name ++ " is running.") now
    else status
  if desired - counts.succeeded = 0 then
    let message := "XGBoostJob " ++ job.name ++ " is successfully completed."
    ((status.complete now).note .succeeded Reason.jobSucceeded message now,
      [job.normalEvent Reason.jobSucceeded message])
  else (status, [])

/-- Judges what the failed replicas of a type mean for the job. -/
def judgeFailures (job : Job) (replicaType : String) (restart : RestartPolicy) (failed : Int32)
    (now : Timestamp) (status : JobStatus) : JobStatus × List Event :=
  let because := " because " ++ toString failed ++ " " ++ replicaType ++ " replica(s) failed."
  if failed ≤ 0 then (status, [])
  else if restart = .exitCode then
    let message := "XGBoostJob " ++ job.name ++ " is restarting" ++ because
    (status.note .restarting Reason.jobRestarting message now,
      [job.warningEvent Reason.jobRestarting message])
  else
    let message := "XGBoostJob " ++ job.name ++ " is failed" ++ because
    ((status.complete now).note .failed Reason.jobFailed message now,
      [job.normalEvent Reason.jobFailed message])

/-- Judges one replica type. -/
def judgeType (job : Job) (replicaType : String) (spec : ReplicaSpec) (desired : Int32) (now : Timestamp)
    (status : JobStatus) : JobStatus × List Event :=
  let counts := status.countsOf replicaType
  let (status, ofMaster) :=
    if isMasterType replicaType then job.judgeMaster desired counts now status else (status, [])
  let (status, ofFailures) := job.judgeFailures replicaType spec.restart counts.failed now status
  (status, ofMaster ++ ofFailures)

/-- Judges replica types in turn, up to the first whose number of replicas is not filled in. -/
def judgeTypes (job : Job) (now : Timestamp) : List (String × ReplicaSpec) → JobStatus → Judgement
  | [], status => { status := status }
  | (replicaType, spec) :: rest, status =>
    match spec.replicas with
    | none => {
        status := status
        error := some (.reconcile kind job.name ("replicas of " ++ replicaType ++ " are not defaulted")) }
    | some desired =>
      let (status, events) := job.judgeType replicaType spec desired now status
      let later := job.judgeTypes now rest status
      { later with events := events ++ later.events }

/-- Judges the job by the counts of all its replica types (`update_job_status`). -/
def judge (job : Job) (now : Timestamp) (status : JobStatus) : Judgement :=
  job.judgeTypes now job.spec.replicaSpecs.entries status

end Job

end TrainingJobs
