/-
The pods of one replica type.

A look at the slots of a replica type gives three things: the counts of its pods, the exit codes to be told,
and a plan. The plan names the pods to be replaced and the slots without a pod; it is carried out only while
nothing asked for earlier is outstanding, and the controller writes down beforehand what it is about to ask
for. Requests run one after the other, deletions first; when one fails, what was not asked for is taken back
from the expectations.
-/
import TrainingJobs.Controller.State
import TrainingJobs.Job.Conditions
import TrainingJobs.Rendezvous
import TrainingJobs.Slot

set_option autoImplicit false

namespace TrainingJobs

/-- Whether a retry may mend a failure with this exit code: codes from 128 up are signals and other passing troubles
(`is_retryable_exit_code`). -/
def isRetryable (exitCode : Int) : Bool := decide (128 ≤ exitCode)

/-- Whether the pod is to be replaced: it failed, and not with an exit code that a retry cannot mend. -/
def Pod.needsReplacement (p : Pod) : Bool :=
  p.phase? == some "Failed" &&
    match p.exitCode? Job.containerName with
    | some code => isRetryable code
    | none => true

/-- How many of the pods are in that phase. -/
def phaseCount (phase : String) (pods : List Pod) : Nat := pods.countP fun p => p.phase? == some phase

/-- The counts of a replica type, by the pods in its slots (`update_replica_status`). -/
def ReplicaCounts.ofPods (pods : List Pod) : ReplicaCounts where
  active := .ofNat (phaseCount "Running" pods)
  succeeded := .ofNat (phaseCount "Succeeded" pods)
  failed := .ofNat (phaseCount "Failed" pods)

/-- A request for the pods of a replica type. -/
inductive PodRequest where
  /-- Delete a pod, for it to be replaced. -/
  | replace (name : String)
  | create (index : Nat)
  deriving DecidableEq, Repr

/-- What there is to do for the pods of a replica type. -/
structure PodPlan where
  /-- The pods that count: of every slot the first. -/
  seated : List Pod
  restarts : List String
  /-- The slots without a pod. -/
  missing : List Nat

/-- The indices of the slots in which nothing stands. -/
def vacant {α : Type} (slots : List (List α)) : List Nat :=
  slots.zipIdx.filterMap fun s => if s.1.isEmpty then some s.2 else none

namespace PodPlan

/-- The plan for slots under a restart policy. -/
def of (restart : RestartPolicy) (slots : List (List Pod)) : PodPlan :=
  let seated := slots.filterMap List.head?
  { seated := seated
    restarts := if restart = .exitCode then (seated.filter Pod.needsReplacement).map nameOf else []
    missing := vacant slots }

def requests (p : PodPlan) : List PodRequest := p.restarts.map .replace ++ p.missing.map .create

end PodPlan

def creations (requests : List PodRequest) : Nat :=
  requests.countP fun | .create _ => true | .replace _ => false

def deletions (requests : List PodRequest) : Nat :=
  requests.countP fun | .replace _ => true | .create _ => false

namespace Job

/-- The events that tell the exit codes of pods. -/
def exitEvents (job : Job) (pods : List Pod) : List Event :=
  pods.filterMap fun p => (p.exitCode? containerName).map fun code =>
    job.normalEvent Reason.exitedWithCode
      ("Pod: " ++ p.metadata.ns.getD "" ++ "." ++ nameOf p ++ " exited with code " ++ toString code)

/-- Whether a template of the job names a scheduler of its own, which then is kept everywhere
(`apply_gang_scheduler`). -/
def hasOwnScheduler (job : Job) (scheduler : String) : Bool :=
  job.spec.replicaSpecs.values.any fun r =>
    match r.template.spec.bind (·.schedulerName) with
    | some name => !name.isEmpty && name != scheduler
    | none => false

/-- What is told about a template before a pod is made from it. -/
def templateWarnings (job : Job) (config : Config) (template : PodTemplate) : List Event :=
  (if (template.spec.bind (·.restartPolicy)).isSome then
    [job.warningEvent Reason.templateRestartPolicy
      ("Restart policy in pod template will be overwritten by restart policy in replica spec")]
  else []) ++
  (if config.gang && job.hasOwnScheduler config.scheduler then
    [job.warningEvent Reason.templateScheduler
      ("Another scheduler is specified when gang-scheduling is enabled and it will not be overwritten")]
  else [])

/-- The labels of the pod of a slot, beside those of the template. -/
def podLabels (job : Job) (replicaType : String) (index : Nat) : Labels :=
  let labels := Labels.ofSlot group job.name replicaType index
  if isMasterType replicaType then labels.insert Label.role "master" else labels

/-- The pod of a slot, made from a template that knows the rendezvous (`create_new_pod`). The labels of the slot win
over those of the template, and the restart policy is always that of the replica spec. -/
def podFor (job : Job) (config : Config) (replicaType : String) (index : Nat) (restart : RestartPolicy)
    (template : PodTemplate) (owner : OwnerReference) : Pod :=
  let given := template.metadata.getD {}
  let ties := if config.gang then [(Label.podGroup, podGroupName job.name)] else []
  let annotations := (given.annotations.getD ∅).insertAll ties
  let spec := { template.spec.getD {} with restartPolicy := some restart.ofPod }
  { metadata := {
      name := some (slotName job.name replicaType index)
      ns := some job.ns
      labels := some (given.labelsOrEmpty.insertAll (job.podLabels replicaType index).entries)
      annotations := if annotations.isEmpty then none else some annotations
      ownerReferences := some [owner] }
    spec := some (if config.gang && !job.hasOwnScheduler config.scheduler then
      { spec with schedulerName := some config.scheduler } else spec) }

end Job

namespace Controller

variable {σ : Type} [ObjectStore σ]

/-- Deletes a pod of a job (`delete_pod`). One that is gone already counts as seen to go. -/
def deletePod (job : Job) (key : ExpectationKey) (name : String) : ControllerM σ Unit := do
  match ← attempt (request (ObjectStore.deletePod ⟨job.ns, name⟩)) with
  | .ok () => tell (job.normalEvent Reason.podDeleted ("Deleted pod: " ++ name))
  | .error e =>
    if e.isNotFound then expecting fun x => x.deletionObserved key
    else
      tell (job.warningEvent Reason.podNotDeleted ("Error deleting: " ++ e.message))
      throw e

/-- Creates the pod of a slot (`create_new_pod`). After a timeout the pod may still appear, so it stays expected; one
that is there already counts as seen. -/
def createPod (job : Job) (key : ExpectationKey) (replicaType : String) (spec : ReplicaSpec) (index : Nat) :
    ControllerM σ Unit := do
  let name := slotName job.name replicaType index
  let config := (← get).config
  let template ← settle (job.slotTemplate spec.template (Text.lowercase replicaType) index)
  tellAll (job.templateWarnings config template)
  let owner ← settle job.ownerReference
  let pod := job.podFor config replicaType index spec.restart template owner
  match ← attempt (request (ObjectStore.createPod job.ns pod)) with
  | .ok _ => tell (job.normalEvent Reason.podCreated ("Created pod: " ++ name))
  | .error e =>
    -- After a timeout the pod may have been created all the same, and the watch will tell.
    if e.isTimeout then pure ()
    else if e.isConflict then expecting fun x => x.creationObserved key
    else
      tell (job.warningEvent Reason.podNotCreated ("Error creating: " ++ e.message))
      throw e

/-- Makes one request for the pods of a replica type. -/
def performPodRequest (job : Job) (key : ExpectationKey) (replicaType : String) (spec : ReplicaSpec) :
    PodRequest → ControllerM σ Unit
  | .replace name => deletePod job key name
  | .create index => createPod job key replicaType spec index

/-- Makes the requests in turn. At the first that fails, the expectations are lowered by it and all that
follow. -/
def performPodRequests (job : Job) (key : ExpectationKey) (replicaType : String) (spec : ReplicaSpec) :
    List PodRequest → ControllerM σ Unit
  | [] => pure ()
  | r :: rest => do
    match ← attempt (performPodRequest job key replicaType spec r) with
    | .ok () => performPodRequests job key replicaType spec rest
    | .error e =>
      expecting fun x => x.lower key (creations (r :: rest)) (deletions (r :: rest))
      throw e

/-- Carries out a plan, unless there is nothing to do or something asked for earlier is outstanding. The
result is how many pods are being replaced. -/
def carryOut (now : Timestamp) (job : Job) (replicaType : String) (spec : ReplicaSpec) (plan : PodPlan) :
    ControllerM σ Nat := do
  let key := ExpectationKey.of job.key replicaType .pods
  if plan.requests.isEmpty then return 0
  if !(← get).expectations.satisfied key now then return 0
  -- What is asked for is written down first: the watch may be faster than the answers.
  expecting fun x => x.set key plan.missing.length plan.restarts.length now
  performPodRequests job key replicaType spec plan.requests
  return plan.restarts.length

/-- The plan for a replica type, by the pods of the job. -/
def podPlan (replicaType : String) (spec : ReplicaSpec) (pods : List Pod) : PodPlan :=
  .of spec.restart (slotsOf replicaType spec.slotCount pods)

theorem length_seated_le (replicaType : String) (spec : ReplicaSpec) (pods : List Pod) :
    (podPlan replicaType spec pods).seated.length ≤ spec.slotCount := by
  unfold podPlan PodPlan.of
  exact Nat.le_trans (List.length_filterMap_le _ _) (Nat.le_of_eq (length_slotsOf _ _ _))

/-- Two phases never count more pods than there are. -/
theorem phaseCount_add_le {phase other : String} (hne : phase ≠ other) (pods : List Pod) :
    phaseCount phase pods + phaseCount other pods ≤ pods.length := by
  induction pods with
  | nil => exact Nat.le_refl 0
  | cons p rest ih =>
    -- A pod is in one phase at most.
    have hone : ¬ ((p.phase? == some phase) = true ∧ (p.phase? == some other) = true) := by
      rintro ⟨h, h'⟩
      exact hne (Option.some.inj ((beq_iff_eq.1 h).symm.trans (beq_iff_eq.1 h')))
    unfold phaseCount at ih ⊢
    rw [List.countP_cons, List.countP_cons, List.length_cons]
    split <;> split
    · next h h' => exact absurd ⟨h, h'⟩ hone
    all_goals omega

/-- The pods in the slots of a replica type are few enough to be counted in 32 bits, since its slots are. -/
theorem phaseCount_seated_lt (phase replicaType : String) (spec : ReplicaSpec) (pods : List Pod) :
    phaseCount phase (podPlan replicaType spec pods).seated < 2147483648 := by
  have hcount : phaseCount phase (podPlan replicaType spec pods).seated ≤ spec.slotCount :=
    Nat.le_trans List.countP_le_length (length_seated_le replicaType spec pods)
  exact Nat.lt_of_le_of_lt hcount spec.slotCount_lt

/-- So no count of them wraps around. -/
theorem toInt_phaseCount_seated (phase replicaType : String) (spec : ReplicaSpec) (pods : List Pod) :
    (Int32.ofNat (phaseCount phase (podPlan replicaType spec pods).seated) : Int) =
      phaseCount phase (podPlan replicaType spec pods).seated :=
  Int32.toInt_ofNat_of_lt (phaseCount_seated_lt phase replicaType spec pods)

/-- Nor does any sum of two counts of them, since no pod is in two phases. -/
theorem fits_succeeded_add_active (replicaType : String) (spec : ReplicaSpec) (pods : List Pod) :
    let counts := ReplicaCounts.ofPods (podPlan replicaType spec pods).seated
    Json.Fits 32 ((counts.succeeded : Int) + counts.active) := by
  intro counts
  have hsum := phaseCount_add_le (show "Succeeded" ≠ "Running" by decide) (podPlan replicaType spec pods).seated
  have hlength := length_seated_le replicaType spec pods
  have hcount := spec.slotCount_lt
  have hsucceeded : (counts.succeeded : Int) = _ := toInt_phaseCount_seated "Succeeded" replicaType spec pods
  have hactive : (counts.active : Int) = _ := toInt_phaseCount_seated "Running" replicaType spec pods
  rw [hsucceeded, hactive, ← Int.natCast_add]
  exact fits_natCast (by omega)

theorem ofNat_phaseCount_pos {phase replicaType : String} {spec : ReplicaSpec} {pods : List Pod} :
    0 < Int32.ofNat (phaseCount phase (podPlan replicaType spec pods).seated) ↔
      0 < phaseCount phase (podPlan replicaType spec pods).seated := by
  rw [Int32.lt_iff_toInt_lt, toInt_phaseCount_seated, Int32.toInt_zero, Int.natCast_pos]

/-- The status with the pods of a replica type counted. -/
def countPods (replicaType : String) (plan : PodPlan) (status : JobStatus) : JobStatus :=
  status.withCounts replicaType (.ofPods plan.seated)

/-- Brings the pods of a replica type in line with its spec (`reconcile_pods`). The result is how many are being
replaced; the counts go into the status with `countPods`. -/
def reconcilePods (now : Timestamp) (job : Job) (replicaType : String) (spec : ReplicaSpec)
    (pods : List Pod) : ControllerM σ Nat := do
  let plan := podPlan replicaType spec pods
  tellAll (job.exitEvents plan.seated)
  carryOut now job replicaType spec plan

end Controller

end TrainingJobs
