/-
Rehearsals: a controller on a store in memory, with the world around it played by hand.

Whoever plays the world sets phases, lets containers fail, takes pods away, and decides when the controller
gets to see any of it. Seeing is a comparison: what is in the store now and was not there at the last look has
appeared, and what was there and is not any more has vanished. The clock advances by the least step between
any two things that happen, so no two happen at once and no time passes that would count.
-/
import TrainingJobs.Controller.Observation
import TrainingJobs.Controller.Process
import TrainingJobs.Store.Memory

set_option autoImplicit false

namespace TrainingJobs

namespace MemoryStore

/-- Sets the phase of every pod, in the order of their addresses. -/
def setAllPhases (s : MemoryStore) (phase : String) : MemoryStore :=
  s.pods.keys.foldl (fun s a => s.setPodPhase a phase) s

/-- Gives a pod another status, if there is one. -/
def setPodStatus (s : MemoryStore) (a : Address) (status : PodStatus) : MemoryStore :=
  match s.pods.get? a with
  | some pod => s.insertPod { pod with status := some status }
  | none => s

/-- Lets the container of a pod end with an exit code, and the pod fail. -/
def failPod (s : MemoryStore) (a : Address) (container : String) (exitCode : Int) : MemoryStore :=
  match s.pods.get? a with
  | some pod =>
    let report : ContainerStatus := {
      name := container
      restartCount := 0
      image := ""
      imageId := ""
      ready := false
      state := some (some exitCode) }
    s.insertPod { pod with
      status := some { pod.status.getD {} with phase := some "Failed", containerStatuses := some [report] } }
  | none => s

/-- Changes the spec of a job, if there is one. -/
def setJobSpec (s : MemoryStore) (a : Address) (spec : JobSpec) : MemoryStore :=
  match s.jobs.get? a with
  | some job => s.insertJob { job with spec := spec }
  | none => s

/-- Changes the status of a job, if there is one. -/
def setJobStatus (s : MemoryStore) (a : Address) (status : JobStatus) : MemoryStore :=
  match s.jobs.get? a with
  | some job => s.insertJob { job with status := some status }
  | none => s

end MemoryStore

/-- A controller on a store in memory, and what it saw of the store at the last look. -/
structure Rehearsal where
  controller : Controller MemoryStore
  /-- The pods at the last look. -/
  seenPods : Dict Address Pod := ∅
  /-- The services at the last look. -/
  seenServices : Dict Address Service := ∅

namespace Rehearsal

/-- A rehearsal that starts with an empty store. -/
def new (config : Config) (start : Timestamp) : Rehearsal where
  controller := .new config { clock := start }

def now (r : Rehearsal) : Timestamp := r.controller.store.clock

/-- Lets the least possible time pass. -/
def tick (r : Rehearsal) : Rehearsal :=
  let store := r.controller.store
  { r with controller := { r.controller with store := { store with clock := store.clock.shift 1 } } }

/-- Something happens to the store. -/
def onStore (r : Rehearsal) (f : MemoryStore → MemoryStore) : Rehearsal :=
  { r with controller := { r.controller with store := f r.controller.store } }

/-- Something happens to the controller. -/
def onController (r : Rehearsal) (f : Controller MemoryStore → Controller MemoryStore) : Rehearsal :=
  { r with controller := f r.controller }

/-- The entries of `d` whose address is not in `e`. -/
def missingFrom {α : Type} (d e : Dict Address α) : List α := (d.filter fun a _ => !e.contains a).values

/-- Lets the controller see what has changed in the store since the last look: pods first, then services, of
each kind first what has appeared. -/
def observe (r : Rehearsal) : Rehearsal :=
  let store := r.controller.store
  let c := (missingFrom store.pods r.seenPods).foldl (fun c p => c.podAdded p) r.controller
  let c := (missingFrom r.seenPods store.pods).foldl (fun c p => c.podDeleted p) c
  let c := (missingFrom store.services r.seenServices).foldl (fun c s => c.serviceAdded s) c
  let c := (missingFrom r.seenServices store.services).foldl (fun c s => c.serviceDeleted s) c
  { controller := c, seenPods := store.pods, seenServices := store.services }

end Rehearsal

end TrainingJobs
