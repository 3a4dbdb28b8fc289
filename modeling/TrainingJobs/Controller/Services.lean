/-
The services of one replica type.

Every slot has a service that selects exactly the pod of the slot and has no address of its own, so that its
name leads to the pod. Services are only created, never replaced; they go when their pod is cleaned up.
-/
import TrainingJobs.Controller.Pods

set_option autoImplicit false

namespace TrainingJobs

/-- The service of a slot (`create_new_service`). -/
def Job.serviceFor (job : Job) (replicaType : String) (index : Nat) (port : Int) (owner : OwnerReference) :
    Service :=
  let labels := Labels.ofSlot Job.group job.name replicaType index
  { metadata := {
      name := some (slotName job.name replicaType index)
      ns := some job.ns
      labels := some labels
      ownerReferences := some [owner] }
    spec := some {
      clusterIp := some "None"
      selector := some labels
      ports := some [⟨some Job.portName, port⟩] } }

namespace Controller

variable {σ : Type} [ObjectStore σ]

/-- Deletes a service of a job (`delete_service`). One that is gone already is fine. -/
def deleteService (job : Job) (name : String) : ControllerM σ Unit := do
  match ← attempt (request (ObjectStore.deleteService ⟨job.ns, name⟩)) with
  | .ok () => tell (job.normalEvent Reason.serviceDeleted ("Deleted service: " ++ name))
  | .error e =>
    if e.isNotFound then pure ()
    else
      tell (job.warningEvent Reason.serviceNotDeleted ("Error deleting: " ++ e.message))
      throw e

/-- Creates the service of a slot (`create_new_service`). As with a pod, it stays expected after a timeout, and counts
as seen if it is there already. -/
def createService (job : Job) (key : ExpectationKey) (replicaType : String) (spec : ReplicaSpec)
    (index : Nat) : ControllerM σ Unit := do
  let name := slotName job.name replicaType index
  let port ← settle spec.meetingPort
  let owner ← settle job.ownerReference
  let service := job.serviceFor replicaType index port owner
  match ← attempt (request (ObjectStore.createService job.ns service)) with
  | .ok _ => tell (job.normalEvent Reason.serviceCreated ("Created service: " ++ name))
  | .error e =>
    if e.isTimeout then pure ()
    else if e.isConflict then expecting fun x => x.creationObserved key
    else
      tell (job.warningEvent Reason.serviceNotCreated ("Error creating: " ++ e.message))
      throw e

/-- Creates the services of slots in turn. At the first that fails, the expectations are lowered by it and
all that follow. -/
def createServices (job : Job) (key : ExpectationKey) (replicaType : String) (spec : ReplicaSpec) :
    List Nat → ControllerM σ Unit
  | [] => pure ()
  | index :: rest => do
    match ← attempt (createService job key replicaType spec index) with
    | .ok () => createServices job key replicaType spec rest
    | .error e =>
      expecting fun x => x.lower key (index :: rest).length 0
      throw e

/-- Creates the services that a replica type lacks, unless something asked for earlier is outstanding
(`reconcile_services`). -/
def reconcileServices (now : Timestamp) (job : Job) (replicaType : String) (spec : ReplicaSpec)
    (services : List Service) : ControllerM σ Unit := do
  let missing := vacant (slotsOf replicaType spec.slotCount services)
  let key := ExpectationKey.of job.key replicaType .services
  if missing.isEmpty then return
  if !(← get).expectations.satisfied key now then return
  expecting fun x => x.set key missing.length 0 now
  createServices job key replicaType spec missing

end Controller

end TrainingJobs
