/-
What a user asks for: the replicas of a training job and how the job is to be run.

A job has replica types (`Master` and `Worker`, in whatever spelling the user wrote them), each with a number
of replicas, a template for their pods and a rule for restarting them. The run policy says when the whole job
is given up and what is cleaned up after it. Every part but the template may be missing.
-/
import TrainingJobs.Object.Pod

set_option autoImplicit false

namespace TrainingJobs

/-- What happens to a replica that ends. -/
inductive RestartPolicy where
  /-- Its container is started again, however it ended. -/
  | always
  | onFailure
  | never
  /-- Its pod is replaced if it failed with an exit code that a retry may mend. -/
  | exitCode
  deriving DecidableEq, Repr, Inhabited

/-- Which pods are deleted once a job is finished. -/
inductive CleanPodPolicy where
  | all
  /-- Pods that are pending or running. -/
  | running
  | none
  deriving DecidableEq, Repr, Inhabited

/-- What is asked for of one replica type. -/
structure ReplicaSpec where
  replicas : Option Int32 := .none
  template : PodTemplate := {}
  restartPolicy : Option RestartPolicy := .none
  deriving DecidableEq, Inhabited

/-- How a job is run. -/
structure RunPolicy where
  cleanPodPolicy : Option CleanPodPolicy := .none
  /-- How many seconds a finished job is kept. -/
  ttlSecondsAfterFinished : Option Int := .none
  /-- For how many seconds the job may be active. -/
  activeDeadlineSeconds : Option Int := .none
  backoffLimit : Option Int := .none
  /-- Whether a scheduling policy is given, and the least number of pods placed together, if it gives one. -/
  schedulingPolicy : Option (Option Int) := .none
  deriving DecidableEq, Repr, Inhabited

/-- A training job as asked for. -/
structure JobSpec where
  runPolicy : RunPolicy := {}
  /-- Its replicas, by replica type. -/
  replicaSpecs : Dict String ReplicaSpec := ∅
  deriving DecidableEq, Inhabited

/-- The replica type of the one replica that the others meet at. -/
def masterType : String := "Master"

/-- The replica type of all other replicas. -/
def workerType : String := "Worker"

namespace RestartPolicy

def name : RestartPolicy → String
  | always => "Always"
  | onFailure => "OnFailure"
  | never => "Never"
  | exitCode => "ExitCode"

/-- The policy that the pod gets (`pod_restart_policy`). A replica that is replaced by exit code is not restarted in
place. -/
def ofPod : RestartPolicy → String
  | always => "Always"
  | onFailure => "OnFailure"
  | never | exitCode => "Never"

/-- Whether a pod of this policy restarts its containers in place. -/
def restartsInPlace : RestartPolicy → Bool
  | always | onFailure => true
  | never | exitCode => false

def byName : List (String × RestartPolicy) :=
  [always, onFailure, never, exitCode].map fun p => (p.name, p)

end RestartPolicy

namespace CleanPodPolicy

def name : CleanPodPolicy → String
  | all => "All"
  | running => "Running"
  | none => "None"

def byName : List (String × CleanPodPolicy) := [all, running, none].map fun p => (p.name, p)

end CleanPodPolicy

namespace ReplicaSpec

/-- How many replicas there should be: one, if nothing is said (`replica_count`). -/
def count (s : ReplicaSpec) : Int32 := s.replicas.getD 1

/-- How many slots that makes: none for a negative number. -/
def slotCount (s : ReplicaSpec) : Nat := s.count.toNatClampNeg

/-- A number of 32 bits makes fewer than `2^31` slots. -/
theorem slotCount_lt (s : ReplicaSpec) : s.slotCount < 2147483648 := by
  have hcount := Int32.toInt_lt s.count
  unfold slotCount
  rw [← Int32.toNat_toInt]
  omega

theorem natCast_slotCount (s : ReplicaSpec) : (s.slotCount : Int) = max 0 (s.count : Int) := by
  unfold slotCount
  rw [← Int32.toNat_toInt]
  omega

/-- What happens when a replica ends: nothing, if nothing is said (`restart_policy`). -/
def restart (s : ReplicaSpec) : RestartPolicy := s.restartPolicy.getD .never

def containers (s : ReplicaSpec) : List Container := (s.template.spec.map (·.containers)).getD []

end ReplicaSpec

namespace RunPolicy

/-- Which pods are deleted once the job is finished: the unfinished ones, if nothing is said. -/
def cleaning (p : RunPolicy) : CleanPodPolicy := p.cleanPodPolicy.getD .running

/-- The least number of pods placed together, if one is given. -/
def minAvailable (p : RunPolicy) : Option Int := p.schedulingPolicy.join

end RunPolicy

/-- How many replicas a job asks for, over all replica types (`total_replicas`). The sum wraps around where it does
not fit. -/
def JobSpec.totalReplicas (s : JobSpec) : Int32 := sum32 ReplicaSpec.count s.replicaSpecs.values

namespace JobSpec

/-- How many replicas these are, were their number not bound to 32 bits. -/
def demand (s : JobSpec) : Int := tally (fun r => (r.count : Int)) s.replicaSpecs.values

theorem totalReplicas_eq_ofInt (s : JobSpec) : s.totalReplicas = .ofInt s.demand := sum32_eq_ofInt _ _

/-- As long as they can be counted in 32 bits, their number is right. -/
theorem toInt_totalReplicas {s : JobSpec} (h : Json.Fits 32 s.demand) : (s.totalReplicas : Int) = s.demand :=
  toInt_sum32 h

end JobSpec

/-! ## JSON form -/

namespace ReplicaSpec

def encode (s : ReplicaSpec) : Json :=
  .ofFields [("replicas", s.replicas.map .ofInt32), ("template", some s.template.encode),
    ("restartPolicy", s.restartPolicy.map fun p => .str p.name)]

def decode (j : Json) : Option ReplicaSpec := do
  let m ← j.ownMembers? ["replicas", "template", "restartPolicy"] 3
  some {
    replicas := ← Json.optional m "replicas" Json.decodeInt32
    template := ← Json.defaulted m "template" PodTemplate.decode {}
    restartPolicy := ← Json.optional m "restartPolicy" (Json.decodeName RestartPolicy.byName) }

end ReplicaSpec

namespace RunPolicy

def fields (p : RunPolicy) : List (String × Option Json) :=
  [("cleanPodPolicy", p.cleanPodPolicy.map fun c => .str c.name),
    ("ttlSecondsAfterFinished", p.ttlSecondsAfterFinished.map .int),
    ("activeDeadlineSeconds", p.activeDeadlineSeconds.map .int),
    ("backoffLimit", p.backoffLimit.map .int),
    ("schedulingPolicy", p.schedulingPolicy.map fun least => .ofFields [("minAvailable", least.map .int)])]

def fieldNames : List String :=
  ["cleanPodPolicy", "ttlSecondsAfterFinished", "activeDeadlineSeconds", "backoffLimit", "schedulingPolicy"]

def encode (p : RunPolicy) : Json := .ofFields p.fields

/-- Reads the least number of pods placed together. -/
def decodeScheduling (j : Json) : Option (Option Int) := do
  Json.optional (← j.ownMembers? ["minAvailable"] 1) "minAvailable" (Json.decodeInt 32)

/-- Reads a run policy from the members of an object, which may have others beside them. -/
def ofMembers (m : List (String × Json)) : Option RunPolicy := do
  some {
    cleanPodPolicy := ← Json.optional m "cleanPodPolicy" (Json.decodeName CleanPodPolicy.byName)
    ttlSecondsAfterFinished := ← Json.optional m "ttlSecondsAfterFinished" (Json.decodeInt 32)
    activeDeadlineSeconds := ← Json.optional m "activeDeadlineSeconds" (Json.decodeInt 64)
    backoffLimit := ← Json.optional m "backoffLimit" (Json.decodeInt 32)
    schedulingPolicy := ← Json.optional m "schedulingPolicy" decodeScheduling }

def decode (j : Json) : Option RunPolicy := (j.ownMembers? fieldNames 5).bind ofMembers

end RunPolicy

namespace JobSpec

/-- A job spec as JSON: the members of the run policy, and the replicas beside them. -/
def encode (s : JobSpec) : Json :=
  .ofFields (s.runPolicy.fields ++ [("xgbReplicaSpecs", some (.ofDict ReplicaSpec.encode s.replicaSpecs))])

def decode (j : Json) : Option JobSpec := do
  let m ← j.mixedMembers? ["xgbReplicaSpecs"] RunPolicy.fieldNames
  let runPolicy ← RunPolicy.ofMembers m
  let replicaSpecs ← Json.defaulted m "xgbReplicaSpecs" (Json.decodeDict ReplicaSpec.decode) ∅
  some ⟨runPolicy, replicaSpecs⟩

end JobSpec

end TrainingJobs
