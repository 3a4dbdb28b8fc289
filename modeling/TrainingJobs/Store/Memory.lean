/-
A store in memory.

Objects are kept by address, one collection for each kind. Every write of an object gives it the next number
of one counter that the whole store shares, and the first write also an identity and a time of creation. For
rehearsals, failures can be lined up: the next call of an operation takes the first failure that waits for
it, and does nothing else.
-/
import TrainingJobs.Store.Interface

set_option autoImplicit false

namespace TrainingJobs

/-- The operations that can be made to fail. -/
inductive StoreOp where
  | getJob
  | updateJobStatus
  | deleteJob
  | createPod
  | deletePod
  | createService
  | deleteService
  | createPodGroup
  | deletePodGroup
  deriving DecidableEq, Repr, Inhabited

/-- A store in memory. -/
structure MemoryStore where
  jobs : Dict Address Job := ∅
  pods : Dict Address Pod := ∅
  services : Dict Address Service := ∅
  podGroups : Dict Address PodGroup := ∅
  /-- The failures lined up, each with the operation it waits for. -/
  failures : List (StoreOp × OperatorError) := []
  /-- How many writes of a status were accepted. -/
  statusUpdates : Nat := 0
  /-- The number of the last write. -/
  version : Nat := 0
  clock : Timestamp
  deriving Inhabited

namespace MemoryStore

/-- Makes the next call of an operation fail that is not to fail already (`fail_next`). -/
def failNext (s : MemoryStore) (op : StoreOp) (error : OperatorError) : MemoryStore :=
  { s with failures := s.failures ++ [(op, error)] }

/-- Takes the first failure that waits for the operation (`take_failure`). -/
def takeFailure? (op : StoreOp) :
    List (StoreOp × OperatorError) → Option (OperatorError × List (StoreOp × OperatorError))
  | [] => none
  | f :: rest =>
    if f.1 = op then some (f.2, rest)
    else (takeFailure? op rest).map fun r => (r.1, f :: r.2)

/-- The metadata of an object as the write number `version` leaves it. -/
def stamped (version : Nat) (clock : Timestamp) (m : Metadata) : Metadata :=
  let m := { m with resourceVersion := some (toString version) }
  match m.uid with
  | some _ => m
  | none => { m with uid := some ("uid-" ++ toString version), creationTimestamp := some clock }

/-- Counts a write, and gives the object that is written what the write leaves on it (`stamp`). -/
def stamp {α : Type} [HasMetadata α] (s : MemoryStore) (object : α) : α × MemoryStore :=
  let version := s.version + 1
  (HasMetadata.withMetadata object (stamped version s.clock (HasMetadata.metadata object)),
    { s with version := version })

/-! ## What others do to the store -/

/-- Puts a job into the store, in the place of one that is there (`insert_job`). -/
def insertJob (s : MemoryStore) (job : Job) : MemoryStore :=
  let (job, s) := s.stamp job
  { s with jobs := s.jobs.insert job.address job }

/-- Puts a pod into the store, in the place of one that is there (`insert_pod`). -/
def insertPod (s : MemoryStore) (pod : Pod) : MemoryStore :=
  let (pod, s) := s.stamp pod
  { s with pods := s.pods.insert pod.metadata.address pod }

/-- Takes a job out of the store, and nothing with it (`remove_job`). -/
def removeJob (s : MemoryStore) (a : Address) : MemoryStore := { s with jobs := s.jobs.erase a }

/-- Takes a pod out of the store (`remove_pod`). -/
def removePod (s : MemoryStore) (a : Address) : MemoryStore := { s with pods := s.pods.erase a }

/-- Sets the phase of a pod, if there is one (`set_pod_phase`). -/
def setPodPhase (s : MemoryStore) (a : Address) (phase : String) : MemoryStore :=
  match s.pods.get? a with
  | none => s
  | some pod =>
    let version := s.version + 1
    let pod := { pod.withPhase phase with
      metadata := { pod.metadata with resourceVersion := some (toString version) } }
    { s with pods := s.pods.insert a pod, version := version }

/-! ## The operations of a store -/

/-- An operation that fails with the first failure that waits for it, and else runs. -/
def guarded {α : Type} (op : StoreOp) (run : StoreM MemoryStore α) : StoreM MemoryStore α := do
  match takeFailure? op (← get).failures with
  | some (error, rest) =>
    modify fun s => { s with failures := rest }
    throw error
  | none => run

/-- The objects of a namespace with all labels of a selector, in the order of their names. -/
def select {α : Type} [HasMetadata α] (objects : Dict Address α) (ns : String) (selector : Labels) :
    List α :=
  (objects.filter fun a o =>
    a.ns == ns && Labels.selectedBy (HasMetadata.metadata o).labelsOrEmpty selector).values

/-- Creates an object in one collection of the store. -/
def create {α : Type} [HasMetadata α] (collection : String) (objects : MemoryStore → Dict Address α)
    (withObjects : MemoryStore → Dict Address α → MemoryStore) (ns : String) (object : α) :
    StoreM MemoryStore α := do
  let name := nameOf object
  let s ← get
  if (objects s).contains ⟨ns, name⟩ then throw (.api (.alreadyExists collection name))
  let placed := HasMetadata.withMetadata object { HasMetadata.metadata object with ns := some ns }
  let (placed, s) := s.stamp placed
  set (withObjects s ((objects s).insert ⟨ns, name⟩ placed))
  return placed

/-- Deletes an object of one collection of the store. -/
def delete {α : Type} (kind : String) (objects : MemoryStore → Dict Address α)
    (withObjects : MemoryStore → Dict Address α → MemoryStore) (a : Address) : StoreM MemoryStore Unit := do
  let s ← get
  if (objects s).contains a then set (withObjects s ((objects s).erase a))
  else throw (.notFound kind a.name a.ns)

/-- The pod as it is created: one without a status is pending. -/
def asCreated (pod : Pod) : Pod :=
  { pod with status := some (pod.status.getD { phase := some "Pending" }) }

/-- Writes the status of a job (`update_job_status`). -/
def writeStatus (job : Job) (status : JobStatus) : StoreM MemoryStore Unit := do
  let s ← get
  match s.jobs.get? job.address with
  | none => throw (.notFound Job.kind job.name job.ns)
  | some stored =>
    let (stored, s) := s.stamp { stored with status := some status }
    set { s with jobs := s.jobs.insert job.address stored, statusUpdates := s.statusUpdates + 1 }

instance : ObjectStore MemoryStore where
  getJob a := guarded .getJob do return (← get).jobs.get? a
  updateJobStatus job status := guarded .updateJobStatus (writeStatus job status)
  deleteJob a := guarded .deleteJob (delete Job.kind jobs (fun s d => { s with jobs := d }) a)
  listPods ns selector := do return select (← get).pods ns selector
  createPod ns pod := guarded .createPod
    (create "pods" pods (fun s d => { s with pods := d }) ns (asCreated pod))
  deletePod a := guarded .deletePod (delete "Pod" pods (fun s d => { s with pods := d }) a)
  listServices ns selector := do return select (← get).services ns selector
  createService ns service := guarded .createService
    (create "services" services (fun s d => { s with services := d }) ns service)
  deleteService a := guarded .deleteService
    (delete "Service" services (fun s d => { s with services := d }) a)
  getPodGroup a := do return (← get).podGroups.get? a
  createPodGroup ns group := guarded .createPodGroup
    (create PodGroup.plural podGroups (fun s d => { s with podGroups := d }) ns group)
  deletePodGroup a := guarded .deletePodGroup
    (delete PodGroup.kind podGroups (fun s d => { s with podGroups := d }) a)

end MemoryStore

end TrainingJobs
