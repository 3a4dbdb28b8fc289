/-
What is known of a training job: how many of its replicas are in which state, and its conditions.

The conditions are a history. Each says that the job is, or was, in one of five states, why, and since when;
the newest stands last. `Created`, `Running` and `Restarting` are passing states, `Succeeded` and `Failed`
are verdicts.
-/
import TrainingJobs.Tally

set_option autoImplicit false

namespace TrainingJobs

/-- How many pods of one replica type are in which phase. -/
structure ReplicaCounts where
  active : Int32 := 0
  succeeded : Int32 := 0
  failed : Int32 := 0
  deriving DecidableEq, Repr, Inhabited

/-- What a condition speaks of. -/
inductive ConditionKind where
  /-- The operator took the job in. -/
  | created
  | running
  /-- Failed replicas are being replaced. -/
  | restarting
  | succeeded
  /-- The job is given up. -/
  | failed
  deriving DecidableEq, Repr, Inhabited

/-- Whether what a condition speaks of is so. -/
inductive ConditionStatus where
  | yes
  | no
  | unknown
  deriving DecidableEq, Repr, Inhabited

/-- One condition of a job. -/
structure Condition where
  kind : ConditionKind
  status : ConditionStatus
  reason : String
  message : String
  /-- When the condition was written last. -/
  lastUpdateTime : Option Timestamp
  /-- When its status changed last. -/
  lastTransitionTime : Option Timestamp
  deriving DecidableEq, Repr, Inhabited

/-- What is known of a job. -/
structure JobStatus where
  /-- The conditions, the oldest first. -/
  conditions : List Condition := []
  /-- The pods counted, by replica type. -/
  replicaStatuses : Dict String ReplicaCounts := ∅
  /-- When the operator first saw the job. -/
  startTime : Option Timestamp := none
  /-- When the verdict on the job was reached. -/
  completionTime : Option Timestamp := none
  /-- When the status was written last. -/
  lastReconcileTime : Option Timestamp := none
  deriving DecidableEq, Inhabited

namespace ConditionKind

def name : ConditionKind → String
  | created => "Created"
  | running => "Running"
  | restarting => "Restarting"
  | succeeded => "Succeeded"
  | failed => "Failed"

/-- Whether the condition is a verdict on the job. -/
def isVerdict : ConditionKind → Bool
  | succeeded | failed => true
  | created | running | restarting => false

def byName : List (String × ConditionKind) :=
  [created, running, restarting, succeeded, failed].map fun k => (k.name, k)

end ConditionKind

namespace ConditionStatus

def name : ConditionStatus → String
  | yes => "True"
  | no => "False"
  | unknown => "Unknown"

def byName : List (String × ConditionStatus) := [yes, no, unknown].map fun s => (s.name, s)

end ConditionStatus

/-! ## JSON form -/

namespace ReplicaCounts

def encode (c : ReplicaCounts) : Json :=
  .obj [("active", .ofInt32 c.active), ("succeeded", .ofInt32 c.succeeded), ("failed", .ofInt32 c.failed)]

def decode (j : Json) : Option ReplicaCounts := do
  let m ← j.ownMembers? ["active", "succeeded", "failed"] 0
  some {
    active := ← Json.defaulted m "active" Json.decodeInt32 0
    succeeded := ← Json.defaulted m "succeeded" Json.decodeInt32 0
    failed := ← Json.defaulted m "failed" Json.decodeInt32 0 }

end ReplicaCounts

namespace Condition

def encode (c : Condition) : Json :=
  .ofFields [("type", some (.str c.kind.name)), ("status", some (.str c.status.name)),
    ("reason", Json.unlessEmpty c.reason), ("message", Json.unlessEmpty c.message),
    ("lastUpdateTime", c.lastUpdateTime.map .ofTime),
    ("lastTransitionTime", c.lastTransitionTime.map .ofTime)]

def decode (j : Json) : Option Condition := do
  let m ← j.ownMembers? ["type", "status", "reason", "message", "lastUpdateTime", "lastTransitionTime"] 6
  some {
    kind := ← Json.required m "type" (Json.decodeName ConditionKind.byName)
    status := ← Json.required m "status" (Json.decodeName ConditionStatus.byName)
    reason := ← Json.defaulted m "reason" Json.decodeString ""
    message := ← Json.defaulted m "message" Json.decodeString ""
    lastUpdateTime := ← Json.optional m "lastUpdateTime" Json.decodeTime
    lastTransitionTime := ← Json.optional m "lastTransitionTime" Json.decodeTime }

end Condition

namespace JobStatus

def encode (s : JobStatus) : Json :=
  .ofFields [("conditions", some (.ofList Condition.encode s.conditions)),
    ("replicaStatuses", some (.ofDict ReplicaCounts.encode s.replicaStatuses)),
    ("startTime", s.startTime.map .ofTime), ("completionTime", s.completionTime.map .ofTime),
    ("lastReconcileTime", s.lastReconcileTime.map .ofTime)]

def decode (j : Json) : Option JobStatus := do
  let m ← j.ownMembers?
    ["conditions", "replicaStatuses", "startTime", "completionTime", "lastReconcileTime"] 5
  some {
    conditions := ← Json.defaulted m "conditions" (Json.decodeList Condition.decode) []
    replicaStatuses := ← Json.defaulted m "replicaStatuses" (Json.decodeDict ReplicaCounts.decode) ∅
    startTime := ← Json.optional m "startTime" Json.decodeTime
    completionTime := ← Json.optional m "completionTime" Json.decodeTime
    lastReconcileTime := ← Json.optional m "lastReconcileTime" Json.decodeTime }

end JobStatus

end TrainingJobs
