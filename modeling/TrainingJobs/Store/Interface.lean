/-
Stores: what the operator can ask of wherever the objects are kept.

The operator reads and changes jobs, pods, services and pod groups through these operations alone, so it runs
in the same way on objects in memory and on a cluster. An operation takes the state of the store to its
answer and the next state; a refused one gives the reason.
-/
import TrainingJobs.Error
import TrainingJobs.Naming
import TrainingJobs.Object.PodGroup
import TrainingJobs.Object.Service

set_option autoImplicit false

namespace TrainingJobs

/-- An operation on a store with states `σ`. -/
abbrev StoreM (σ α : Type) := ExceptT OperatorError (StateM σ) α

/-- The operations of a store with states `σ`. -/
class ObjectStore (σ : Type) where
  /-- The job stored there, if there is one. -/
  getJob : Address → StoreM σ (Option Job)
  /-- Replaces the status of a stored job. -/
  updateJobStatus : Job → JobStatus → StoreM σ Unit
  deleteJob : Address → StoreM σ Unit
  /-- The pods of a namespace with all labels of a selector. -/
  listPods : String → Labels → StoreM σ (List Pod)
  /-- Creates a pod in a namespace; the answer is the pod as it is stored. -/
  createPod : String → Pod → StoreM σ Pod
  deletePod : Address → StoreM σ Unit
  listServices : String → Labels → StoreM σ (List Service)
  /-- Creates a service in a namespace; the answer is the service as it is stored. -/
  createService : String → Service → StoreM σ Service
  deleteService : Address → StoreM σ Unit
  getPodGroup : Address → StoreM σ (Option PodGroup)
  /-- Creates a pod group in a namespace; the answer is the group as it is stored. -/
  createPodGroup : String → PodGroup → StoreM σ PodGroup
  deletePodGroup : Address → StoreM σ Unit

end TrainingJobs
