/-
The conditions of a job, and how a new one changes the history.

A new condition goes to the end and takes the place of an earlier one of its kind. It says nothing new when
status and reason are the same, and then the history stays as it is. `Running` and `Restarting` replace each
other, a verdict ends `Running`, and after `Failed` nothing is added any more.
-/
import TrainingJobs.Job.Status

set_option autoImplicit false

namespace TrainingJobs

namespace Condition

/-- A condition that holds as of now (`new_condition`). -/
def holding (kind : ConditionKind) (reason message : String) (now : Timestamp) : Condition where
  kind := kind
  status := .yes
  reason := reason
  message := message
  lastUpdateTime := some now
  lastTransitionTime := some now

/-- Whether a new condition of `kind` makes this one obsolete: it is of the same kind, or the one is
`Running` and the other `Restarting`. -/
def supersededBy (c : Condition) (kind : ConditionKind) : Bool :=
  c.kind == kind || (kind == .restarting && c.kind == .running) || (kind == .running && c.kind == .restarting)

/-- What a new condition of `kind` leaves of this one: a verdict ends `Running`. -/
def after (c : Condition) (kind : ConditionKind) : Condition :=
  if kind.isVerdict ∧ c.kind = .running then { c with status := .no } else c

end Condition

namespace JobStatus

/-- The first condition of that kind, whatever its status (`get_condition`). -/
def condition? (s : JobStatus) (kind : ConditionKind) : Option Condition :=
  s.conditions.find? fun c => c.kind == kind

/-- Whether a condition of that kind holds (`has_condition`). -/
def holds (s : JobStatus) (kind : ConditionKind) : Bool :=
  s.conditions.any fun c => c.kind == kind && c.status == .yes

/-- Whether the job is done (`is_succeeded`). -/
def isSucceeded (s : JobStatus) : Bool := s.holds .succeeded

/-- Whether the job is given up (`is_failed`). -/
def isFailed (s : JobStatus) : Bool := s.holds .failed

/-- Whether there is a verdict on the job. -/
def isFinished (s : JobStatus) : Bool := s.isSucceeded || s.isFailed

/-- What a new condition of `kind` leaves of the history (`filter_out_condition`). -/
def conditionsAfter (s : JobStatus) (kind : ConditionKind) : List Condition :=
  (s.conditions.filter fun c => !c.supersededBy kind).map fun c => c.after kind

/-- Adds a condition to the history, unless it says nothing new or the job has failed (`set_condition`). The time of
the last transition is that of the earlier condition, if the status is the same. -/
def addCondition (s : JobStatus) (c : Condition) : JobStatus :=
  if s.isFailed then s
  else
    match s.condition? c.kind with
    | none => { s with conditions := s.conditionsAfter c.kind ++ [c] }
    | some current =>
      if current.status = c.status ∧ current.reason = c.reason then s
      else
        -- Where only the reason is new, the kind has held since the earlier condition.
        let since := if current.status = c.status then current.lastTransitionTime else c.lastTransitionTime
        { s with conditions := s.conditionsAfter c.kind ++ [{ c with lastTransitionTime := since }] }

/-- Notes that `kind` holds now (`update_job_conditions`). -/
def note (s : JobStatus) (kind : ConditionKind) (reason message : String) (now : Timestamp) : JobStatus :=
  s.addCondition (.holding kind reason message now)

/-- Notes when the verdict was reached, unless that is known. -/
def complete (s : JobStatus) (now : Timestamp) : JobStatus :=
  { s with completionTime := some (s.completionTime.getD now) }

def withCounts (s : JobStatus) (replicaType : String) (counts : ReplicaCounts) : JobStatus :=
  { s with replicaStatuses := s.replicaStatuses.insert replicaType counts }

/-- The counts of a replica type: zero, where none are known. -/
def countsOf (s : JobStatus) (replicaType : String) : ReplicaCounts :=
  (s.replicaStatuses.get? replicaType).getD {}

/-- How many pods are counted as failed, over all replica types (`previous_failed`). The sum wraps around where it
does not fit. -/
def failedCount (s : JobStatus) : Int32 := sum32 (·.failed) s.replicaStatuses.values

end JobStatus

end TrainingJobs
