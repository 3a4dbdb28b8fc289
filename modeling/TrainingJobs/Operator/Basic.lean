/-
The operator: a controller, the watches that tell it what happens, and the schedule of its passes.

A job is due for a pass when it appears or is changed, and when something that it owns appears, is changed
or vanishes. Before that, the controller itself hears of what has appeared and vanished, because this is what
it has been waiting for. A pass over a job then says when the next one is due. Passes are made only over jobs
that are there as far as the operator has heard.
-/
import TrainingJobs.Controller.Observation
import TrainingJobs.Controller.Process
import TrainingJobs.Operator.Schedule
import TrainingJobs.Watch.Lookout
import TrainingJobs.Watch.Watcher

set_option autoImplicit false

namespace TrainingJobs

/-- The operator's side of a watch on one kind of object. -/
structure Watch (α : Type) where
  scope : WatchScope
  state : WatcherState α := .start
  lookout : Lookout α := {}
  /-- The rests after failures of this watch. -/
  pace : Pace := {}

/-- An operator on a store with states `σ`. -/
structure Operator (σ : Type) where
  controller : Controller σ
  jobs : Watch Job
  pods : Watch Pod
  services : Watch Service
  /-- How often all jobs are due, in milliseconds; 0 stands for never. -/
  resyncPeriod : Nat
  /-- How often all jobs have been due. -/
  resyncs : Nat := 0
  schedule : Schedule := ∅
  /-- The rests after failures of any watch; all of them rest. -/
  pace : Pace := {}

/-- What a turn of a watch has brought. -/
structure Heard (α : Type) where
  turn : Turn α
  /-- What has appeared and vanished. -/
  changes : List (Change α)
  watch : Watch α

namespace Watch

variable {α : Type} [HasMetadata α]

/-- Takes a turn, unless it is time to rest. -/
def turn (w : Watch α) (handsOn : WatchUpdate α → Option α) (feed : Feed α) (now : Nat) : Turn α :=
  if w.pace.resting now then { ending := .idle, state := w.state, feed := feed }
  else w.state.turn w.scope handsOn feed

/-- Takes a turn, and hears what it brings. -/
def listen (w : Watch α) (handsOn : WatchUpdate α → Option α) (feed : Feed α) (now : Nat) : Heard α :=
  let turn := w.turn handsOn feed now
  let (changes, lookout) := w.lookout.hearAll turn.updates
  let pace := match turn.ending with
    | .failed => w.pace.rest now
    | _ => w.pace
  { turn := turn, changes := changes, watch := { w with state := turn.state, lookout := lookout, pace := pace } }

end Watch

/-- The jobs that own an object, whether they control it or not. They are where the object says it is. -/
def ownersOf {α : Type} [HasMetadata α] (object : α) : List Designation :=
  let metadata := HasMetadata.metadata object
  (metadata.owners.filter OwnerReference.isOfJob).map fun o => ⟨metadata.ns, o.name⟩

namespace TurnEnd

/-- The object that the turn hands on. -/
def touched? {α : Type} : TurnEnd α → Option α
  | touched object => some object
  | failed | asked | idle => none

end TurnEnd

namespace Operator

variable {σ : Type}

/-- What an operator watches in a namespace, or in all: the jobs, and what is labelled as belonging to one. -/
def new (controller : Controller σ) (ns : Option String) (resyncPeriod : Nat) : Operator σ where
  controller := controller
  jobs := { scope := { resource := .jobs, ns := ns } }
  pods := { scope := { resource := .pods, ns := ns, selector := Labels.ofGroup Job.group } }
  services := { scope := { resource := .services, ns := ns, selector := Labels.ofGroup Job.group } }
  resyncPeriod := resyncPeriod

/-- The controller hears of a job that has vanished. -/
def hearJob (c : Controller σ) : WatchUpdate Job → Controller σ
  | .deleted job => c.jobDeleted job
  | .restarted | .relisted _ | .relistDone | .applied _ => c

/-- The controller hears of a pod. -/
def hearPod (c : Controller σ) : Change Pod → Controller σ
  | .added pod => c.podAdded pod
  | .deleted pod => c.podDeleted pod

/-- The controller hears of a service. -/
def hearService (c : Controller σ) : Change Service → Controller σ
  | .added service => c.serviceAdded service
  | .deleted service => c.serviceDeleted service

/-- Takes over what was heard of jobs. A job that is handed on is due at once. -/
def hearJobs (o : Operator σ) (h : Heard Job) (now : Nat) : Operator σ :=
  { o with
    controller := h.turn.updates.foldl hearJob o.controller
    jobs := h.watch
    schedule := o.schedule.addAll (h.turn.ending.touched?.toList.map designationOf) now }

/-- Takes over what was heard of pods. The jobs that own a pod that is handed on are due at once. -/
def hearPods (o : Operator σ) (h : Heard Pod) (now : Nat) : Operator σ :=
  { o with
    controller := h.changes.foldl hearPod o.controller
    pods := h.watch
    schedule := o.schedule.addAll (h.turn.ending.touched?.toList.flatMap ownersOf) now }

/-- Takes over what was heard of services. The jobs that own a service that is handed on are due at once. -/
def hearServices (o : Operator σ) (h : Heard Service) (now : Nat) : Operator σ :=
  { o with
    controller := h.changes.foldl hearService o.controller
    services := h.watch
    schedule := o.schedule.addAll (h.turn.ending.touched?.toList.flatMap ownersOf) now }

/-- The jobs that are there, as far as the operator has heard. -/
def knownJobs (o : Operator σ) : Reflection Job := o.jobs.lookout.reflection

/-- Whether the operator has heard of all jobs there were when it started. -/
def isReady (o : Operator σ) : Bool := o.knownJobs.ready

/-- All known jobs are due, if the time for that has come since they were last. -/
def resync (o : Operator σ) (now : Nat) : Operator σ :=
  let resyncs := if o.resyncPeriod = 0 then 0 else now / o.resyncPeriod
  if o.resyncs < resyncs then
    { o with resyncs := resyncs, schedule := o.schedule.addAll o.knownJobs.objects.keys now }
  else o

/-- Makes the pass over a job that is due, and schedules the next one (`reconcile`). It is scheduled under the
designation that was due, which need not be the one that the job goes by. -/
def look [ObjectStore σ] (o : Operator σ) (clock : Timestamp) (now : Nat) (d : Designation) : Operator σ :=
  -- The entry goes first: the pass may schedule the job again.
  let o := { o with schedule := o.schedule.erase d }
  match o.knownJobs.find? d with
  | none => o
  | some job =>
    let (action, controller) := o.controller.process clock job.key
    let schedule := match action with
      | .await => o.schedule
      | .requeue wait | .retry wait => o.schedule.addAfter d now wait
    { o with controller := controller, schedule := schedule }

/-- Makes the passes that are due. -/
def lookAtDue [ObjectStore σ] (o : Operator σ) (clock : Timestamp) (now : Nat) : Operator σ :=
  if o.isReady then (o.schedule.due now).foldl (fun o d => o.look clock now d) o else o

/-- When something is to be done next, if nothing happens until then. -/
def nextWake? (o : Operator σ) (now : Nat) : Option Nat :=
  -- A pass that is due already is made at the next instant there is.
  let passes := if o.isReady then o.schedule.values.map fun due => Nat.max due (now + 1) else []
  let rests := [o.pace, o.jobs.pace, o.pods.pace, o.services.pace].filterMap fun p =>
    if p.resting now then some p.restUntil else none
  let resync := if o.resyncPeriod = 0 then [] else [(now / o.resyncPeriod + 1) * o.resyncPeriod]
  (passes ++ rests ++ resync).min?

end Operator

end TrainingJobs
