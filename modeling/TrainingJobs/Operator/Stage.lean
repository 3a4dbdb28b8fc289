/-
A stage: a whole operator in rehearsal, on a store in memory and with watches that are played by hand.

What is in the store and what the operator is told of it are two things. Whoever plays the platform decides
when the operator hears of the objects there are, lets watches end or expire, and sends events that have
nothing to do with the store. The timers stand still while nobody lets them run; whatever is played takes a
millisecond for each kind of object.
-/
import TrainingJobs.Operator.Deployment
import TrainingJobs.Rehearsal

set_option autoImplicit false

namespace TrainingJobs

/-- The kinds of objects that an operator watches. -/
inductive WatchedKind where
  | jobs
  | pods
  | services
  deriving DecidableEq, Repr, Inhabited

/-- A whole operator in rehearsal. -/
structure Stage where
  deployment : Deployment MemoryStore
  /-- What was seen of the store, where looking at it is played too. -/
  seenPods : Dict Address Pod := ∅
  seenServices : Dict Address Service := ∅
  /-- How long the timers have run, in milliseconds. -/
  timer : Nat := 0

namespace WatchedKind

/-- All kinds, in the order in which they take turns. -/
def all : List WatchedKind := [jobs, pods, services]

def name : WatchedKind → String
  | jobs => Resource.jobs.plural
  | pods => Resource.pods.plural
  | services => Resource.services.plural

end WatchedKind

namespace WatchScope

/-- Whether an object is of those that are watched. -/
def covers {α : Type} [HasMetadata α] (s : WatchScope) (a : Address) (object : α) : Bool :=
  (match s.ns with | some ns => a.ns == ns | none => true) &&
    Labels.selectedBy (HasMetadata.metadata object).labelsOrEmpty s.selector

end WatchScope

namespace Stage

def operator (s : Stage) : Operator MemoryStore := s.deployment.operator

def store (s : Stage) : MemoryStore := s.operator.controller.store

/-- The controller of the operator, as it is rehearsed alone. -/
def rehearsal (s : Stage) : Rehearsal where
  controller := s.operator.controller
  seenPods := s.seenPods
  seenServices := s.seenServices

/-- The stage after something was rehearsed with the controller alone. -/
def withRehearsal (s : Stage) (r : Rehearsal) : Stage :=
  { s with
    deployment := { s.deployment with operator := { s.operator with controller := r.controller } }
    seenPods := r.seenPods
    seenServices := r.seenServices }

def visibleJobs (s : Stage) : Dict Address Job := s.store.jobs.filter s.operator.jobs.scope.covers

def visiblePods (s : Stage) : Dict Address Pod := s.store.pods.filter s.operator.pods.scope.covers

def visibleServices (s : Stage) : Dict Address Service :=
  s.store.services.filter s.operator.services.scope.covers

/-- Does all there is to do at an instant of the timers, and lets the least possible time pass before. -/
def settleAt (s : Stage) (now : Nat) : Stage :=
  let s := s.withRehearsal s.rehearsal.tick
  { s with deployment := s.deployment.settle s.store.clock now }

/-- Lets the timers run from one reading to another, and does whenever there is something to do. -/
def runTo (limit now : Nat) (s : Stage) : Stage :=
  let s := s.settleAt now
  match s.operator.nextWake? now with
  | some wake => if _h : now < wake ∧ wake < limit then runTo limit wake s else s
  | none => s
termination_by limit - now
decreasing_by omega

/-- Lets the timers run for some milliseconds, and for one more until everything is quiet. -/
def advance (s : Stage) (millis : Nat) : Stage :=
  let limit := s.timer + millis + 1
  { runTo limit s.timer s with timer := limit }

def onPlatform (s : Stage) (f : Platform → Platform) : Stage :=
  { s with deployment := { s.deployment with platform := f s.deployment.platform } }

/-- Tells the operator what there is of one kind. -/
def deliver (s : Stage) (kind : WatchedKind) : Stage :=
  let s := s.onPlatform fun p =>
    match kind with
    | .jobs => { p with jobs := p.jobs.deliver s.visibleJobs }
    | .pods => { p with pods := p.pods.deliver s.visiblePods }
    | .services => { p with services := p.services.deliver s.visibleServices }
  s.advance 0

/-- Lets the watch on one kind expire, so that it will be listed anew. -/
def expire (s : Stage) (kind : WatchedKind) : Stage :=
  s.onPlatform fun p =>
    match kind with
    | .jobs => { p with jobs := p.jobs.expire s.visibleJobs }
    | .pods => { p with pods := p.pods.expire s.visiblePods }
    | .services => { p with services := p.services.expire s.visibleServices }

/-- Ends the watch on one kind. -/
def close (s : Stage) (kind : WatchedKind) : Stage :=
  s.onPlatform fun p =>
    match kind with
    | .jobs => { p with jobs := p.jobs.close }
    | .pods => { p with pods := p.pods.close }
    | .services => { p with services := p.services.close }

/-- Sends one event, whatever it is. -/
def send (s : Stage) (kind : WatchedKind) (event : Json) : Stage :=
  s.onPlatform fun p =>
    match kind with
    | .jobs => { p with jobs := p.jobs.send [WatchEvent.decode Job.decode event] }
    | .pods => { p with pods := p.pods.send [WatchEvent.decode Pod.decode event] }
    | .services => { p with services := p.services.send [WatchEvent.decode Service.decode event] }

/-- Lets the platform refuse the first lists of one kind. -/
def refuse (s : Stage) (kind : WatchedKind) (n : Nat) : Stage :=
  s.onPlatform fun p =>
    match kind with
    | .jobs => { p with jobs := { p.jobs with refusals := n } }
    | .pods => { p with pods := { p.pods with refusals := n } }
    | .services => { p with services := { p.services with refusals := n } }

/-- The stage for an operator that is going to be started where a rehearsal stands. Of everything that is
there, the platform will tell. -/
def new (r : Rehearsal) (ns : Option String) (resyncPeriod : Nat) : Stage :=
  let s : Stage := {
    deployment := { operator := .new r.controller ns resyncPeriod, platform := {} }
    seenPods := r.seenPods
    seenServices := r.seenServices }
  s.onPlatform fun p =>
    { p with
      jobs := { p.jobs with delivered := s.visibleJobs }
      pods := { p.pods with delivered := s.visiblePods }
      services := { p.services with delivered := s.visibleServices } }

end Stage

end TrainingJobs
