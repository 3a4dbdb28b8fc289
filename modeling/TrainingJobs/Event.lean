/-
Events: what the operator tells the users of a job about what it does.
-/
import TrainingJobs.Naming

set_option autoImplicit false

namespace TrainingJobs

inductive Severity where
  | normal
  | warning
  deriving DecidableEq, Repr, Inhabited

/-- Something that happened to a job. -/
structure Event where
  job : String
  severity : Severity
  /-- What happened, for programs. -/
  reason : String
  /-- What happened, for people. -/
  message : String
  deriving DecidableEq, Repr, Inhabited

namespace Severity

def name : Severity → String
  | normal => "Normal"
  | warning => "Warning"

end Severity

namespace Job

def normalEvent (job : Job) (reason message : String) : Event := ⟨job.key, .normal, reason, message⟩

/-- An event of the job that somebody should look at. -/
def warningEvent (job : Job) (reason message : String) : Event := ⟨job.key, .warning, reason, message⟩

end Job

/-! ## Reasons -/

namespace Reason

def jobCreated : String := "XGBoostJobCreated"

def jobRunning : String := "XGBoostJobRunning"

def jobSucceeded : String := "XGBoostJobSucceeded"

def jobFailed : String := "XGBoostJobFailed"

def jobRestarting : String := "XGBoostJobRestarting"

def invalidSpec : String := "InvalidXGBoostJobSpec"

def exitedWithCode : String := "ExitedWithCode"

def podCreated : String := "SuccessfulCreatePod"

def podNotCreated : String := "FailedCreatePod"

def podDeleted : String := "SuccessfulDeletePod"

def podNotDeleted : String := "FailedDeletePod"

def templateRestartPolicy : String := "SettedPodTemplateRestartPolicy"

def templateScheduler : String := "SettedPodTemplateSchedulerName"

def serviceCreated : String := "SuccessfulCreateService"

def serviceNotCreated : String := "FailedCreateService"

def serviceDeleted : String := "SuccessfulDeleteService"

def serviceNotDeleted : String := "FailedDeleteService"

def jobTerminated : String := "JobTerminated"

def podGroupDeleted : String := "SuccessfulDeletePodGroup"

def podGroupNotDeleted : String := "FailedDeletePodGroup"

def jobDeleted : String := "SuccessfulDeleteJob"

def jobNotDeleted : String := "FailedDeleteJob"

end Reason

end TrainingJobs
