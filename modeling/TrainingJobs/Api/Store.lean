/-
The store of a cluster: every operation is one request, and the answer to it is read in one way.

Only the status of a job is ever changed: it is merged into the stored job, at an address of its own. A job
is deleted so that what it owns goes after it; everything else is deleted in the platform's usual way.
-/
import TrainingJobs.Api.Request
import TrainingJobs.Api.Response
import TrainingJobs.Store.Interface

set_option autoImplicit false

namespace TrainingJobs

/-- A request, and how its answer is read. -/
structure Call (α : Type) where
  request : Request
  /-- What an answer to it means. -/
  read : Response → Except OperatorError α

namespace Call

/-- A call by its request, if that can be made. -/
def of {α : Type} (request : Except OperatorError Request) (read : Response → Except OperatorError α) :
    Except OperatorError (Call α) :=
  request.map fun r => ⟨r, read⟩

def getJob (a : Address) : Except OperatorError (Call (Option Job)) :=
  Call.of (Request.read .jobs a) (Response.objectIfAny Job.decode)

/-- What is merged into a job to change its status. -/
def statusPatch (status : JobStatus) : Json := .obj [("status", status.encode)]

/-- Changes the status of a job. -/
def updateJobStatus (job : Job) (status : JobStatus) : Except OperatorError (Call Unit) :=
  Call.of (Request.merge .jobs job.address "/status" (statusPatch status))
    fun r => (r.object Job.decode).map fun _ => ()

/-- Deletes a job, and after it what it owns. -/
def deleteJob (a : Address) : Except OperatorError (Call Unit) :=
  Call.of (Request.delete .jobs a [("propagationPolicy", .str "Background")]) (Response.deletion Job.decode)

/-- Lists objects with all labels of a selector. -/
def listSelected {α : Type} (r : Resource) (decode : Json.Decoder α) (ns : String) (selector : Labels) :
    Except OperatorError (Call (List α)) :=
  Call.of (Request.list r (some ns) [("labelSelector", Labels.selectorText selector)]) (Response.objects decode)

def listPods (ns : String) (selector : Labels) : Except OperatorError (Call (List Pod)) :=
  listSelected .pods Pod.decode ns selector

def createPod (ns : String) (pod : Pod) : Except OperatorError (Call Pod) :=
  Call.of (Request.create .pods ns pod.encode) (Response.object Pod.decode)

def deletePod (a : Address) : Except OperatorError (Call Unit) :=
  Call.of (Request.delete .pods a []) (Response.deletion Pod.decode)

def listServices (ns : String) (selector : Labels) : Except OperatorError (Call (List Service)) :=
  listSelected .services Service.decode ns selector

def createService (ns : String) (service : Service) : Except OperatorError (Call Service) :=
  Call.of (Request.create .services ns service.encode) (Response.object Service.decode)

def deleteService (a : Address) : Except OperatorError (Call Unit) :=
  Call.of (Request.delete .services a []) (Response.deletion Service.decode)

def getPodGroup (a : Address) : Except OperatorError (Call (Option PodGroup)) :=
  Call.of (Request.read .podGroups a) (Response.objectIfAny PodGroup.decode)

def createPodGroup (ns : String) (group : PodGroup) : Except OperatorError (Call PodGroup) :=
  Call.of (Request.create .podGroups ns group.encode) (Response.object PodGroup.decode)

def deletePodGroup (a : Address) : Except OperatorError (Call Unit) :=
  Call.of (Request.delete .podGroups a []) (Response.deletion PodGroup.decode)

end Call

/-- What answers requests: a server with states `σ`. -/
class ApiServer (σ : Type) where
  answer : Request → StateM σ Response

/-- A cluster, known through its server. -/
structure Cluster (σ : Type) where
  server : σ

namespace Cluster

variable {σ α : Type} [ApiServer σ]

/-- Makes a call, if there is one to make. -/
def perform (call : Except OperatorError (Call α)) : StoreM (Cluster σ) α := fun c =>
  match call with
  | .error e => (.error e, c)
  | .ok call =>
    let (response, server) := (ApiServer.answer call.request).run c.server
    (call.read response, ⟨server⟩)

instance : ObjectStore (Cluster σ) where
  getJob a := perform (Call.getJob a)
  updateJobStatus job status := perform (Call.updateJobStatus job status)
  deleteJob a := perform (Call.deleteJob a)
  listPods ns selector := perform (Call.listPods ns selector)
  createPod ns pod := perform (Call.createPod ns pod)
  deletePod a := perform (Call.deletePod a)
  listServices ns selector := perform (Call.listServices ns selector)
  createService ns service := perform (Call.createService ns service)
  deleteService a := perform (Call.deleteService a)
  getPodGroup a := perform (Call.getPodGroup a)
  createPodGroup ns group := perform (Call.createPodGroup ns group)
  deletePodGroup a := perform (Call.deletePodGroup a)

end Cluster

end TrainingJobs
