/-
What the controller learns from the watch.

A pod or service that appears or vanishes lowers the expectations of the job that controls it, for the
replica type it is labelled with. An object that is not controlled by a job, or that has no replica type, was
not made by the controller and changes nothing. When a job vanishes, everything known about it is dropped.
-/
import TrainingJobs.Controller.State

set_option autoImplicit false

namespace TrainingJobs

namespace Controller

variable {σ α : Type} [HasMetadata α]

/-- Under which key an object is expected, if the controller made it (`observe`). -/
def expectationKey? (controllee : Controllee) (object : α) : Option ExpectationKey := do
  let metadata := HasMetadata.metadata object
  let owner ← controllerOf metadata.owners
  let replicaType ← metadata.label? Label.replicaType
  some (.of (keyFor (metadata.ns.getD "") owner.name) replicaType controllee)

/-- An object appeared, for what the expectations are concerned. -/
def observeCreation (controllee : Controllee) (object : α) (c : Controller σ) : Controller σ :=
  match expectationKey? controllee object with
  | some key => { c with expectations := c.expectations.creationObserved key }
  | none => c

/-- An object vanished, for what the expectations are concerned. -/
def observeDeletion (controllee : Controllee) (object : α) (c : Controller σ) : Controller σ :=
  match expectationKey? controllee object with
  | some key => { c with expectations := c.expectations.deletionObserved key }
  | none => c

/-- A pod appeared (`on_pod_added`). One that is leaving already, as it may be seen after a restart, counts as
vanished. -/
def podAdded (pod : Pod) (c : Controller σ) : Controller σ :=
  if pod.isLeaving then c.observeDeletion .pods pod else c.observeCreation .pods pod

/-- A pod vanished (`on_pod_deleted`). -/
def podDeleted (pod : Pod) (c : Controller σ) : Controller σ := c.observeDeletion .pods pod

/-- A service appeared (`on_service_added`). -/
def serviceAdded (service : Service) (c : Controller σ) : Controller σ :=
  c.observeCreation .services service

/-- A service vanished (`on_service_deleted`). -/
def serviceDeleted (service : Service) (c : Controller σ) : Controller σ :=
  c.observeDeletion .services service

/-- A job vanished: nothing will be done for it any more (`on_job_deleted`). -/
def jobDeleted (job : Job) (c : Controller σ) : Controller σ :=
  { c with
    expectations := c.expectations.deleteJob job.key
    retries := c.retries.forget job.key }

end Controller

end TrainingJobs
