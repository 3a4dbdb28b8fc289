/-
Events, published to the cluster.

Every event is an object of its own beside the job that it is about. Saying the same thing of the same job
again does not make a second object: the first one is changed into a series, which counts how often the thing
was said and when last. What was said six minutes ago or before is forgotten, and then starts anew.
-/
import TrainingJobs.Api.Request
import TrainingJobs.Api.Store
import TrainingJobs.Time.Rfc3339

set_option autoImplicit false

namespace TrainingJobs

structure JobReference where
  name : Option String
  ns : Option String
  uid : Option String
  deriving DecidableEq, Repr, Inhabited

/-- The job, as events refer to it. -/
def Job.reference (job : Job) : JobReference := ⟨job.metadata.name, job.metadata.ns, job.metadata.uid⟩

/-- What makes two events the same. -/
structure EventTopic where
  subject : JobReference
  severity : Severity
  reason : String
  deriving DecidableEq, Repr, Inhabited

structure EventSeries where
  count : Nat
  lastObserved : Timestamp
  deriving DecidableEq, Repr, Inhabited

structure Announcement where
  topic : EventTopic
  /-- What is said of it; a repetition keeps the words of the first time. -/
  note : String
  time : Timestamp
  series : Option EventSeries
  deriving DecidableEq, Repr, Inhabited

/-- What publishes events, and what it has published lately. -/
structure Recorder where
  controller : String
  /-- By which of its instances, if they can be told apart. -/
  instanceName : Option String
  recent : List Announcement := []
  deriving DecidableEq, Repr, Inhabited

namespace Announcement

/-- When it was said last. -/
def lastTime (a : Announcement) : Timestamp := (a.series.map (·.lastObserved)).getD a.time

def again (a : Announcement) (now : Timestamp) : Announcement :=
  { a with series := some ⟨match a.series with | some s => s.count + 1 | none => 2, now⟩ }

/-- The name of the object: that of the job, or else of the one who reports, and the time of the first
event. -/
def name (a : Announcement) (controller : String) : String :=
  a.topic.subject.name.getD controller ++ "." ++ String.ofList (Nat.toDigits 16 a.time.nanos.toNat)

def encodeSubject (j : JobReference) : Json :=
  .ofFields [("apiVersion", some (.str Job.apiVersion)), ("kind", some (.str Job.kind)),
    ("name", j.name.map .str), ("namespace", j.ns.map .str), ("uid", j.uid.map .str)]

def encodeSeries (s : EventSeries) : Json :=
  .obj [("count", .int s.count), ("lastObservedTime", .str s.lastObserved.renderMicros)]

def encode (a : Announcement) (controller : String) (instanceName : Option String) : Json :=
  .ofFields [("apiVersion", some (.str "events.k8s.io/v1")), ("kind", some (.str "Event")),
    ("metadata", some (.ofFields
      [("name", some (.str (a.name controller))), ("namespace", a.topic.subject.ns.map .str)])),
    ("action", some (.str "Reconcile")), ("eventTime", some (.str a.time.renderMicros)),
    ("note", some (.str a.note)), ("reason", some (.str a.topic.reason)),
    ("regarding", some (encodeSubject a.topic.subject)),
    ("reportingController", some (.str controller)),
    ("reportingInstance", some (.str (instanceName.getD controller))),
    ("series", a.series.map encodeSeries), ("type", some (.str a.topic.severity.name))]

end Announcement

namespace Recorder

/-- How long an announcement is remembered. -/
def memory : Duration := .ofSeconds 360

/-- What is to be announced: something new, or a repetition. -/
def announcement (r : Recorder) (topic : EventTopic) (note : String) (now : Timestamp) : Announcement :=
  match r.recent.find? fun a => a.topic == topic with
  | some a => a.again now
  | none => ⟨topic, note, now, none⟩

/-- The request that publishes an announcement: a new one is created, a repetition changes the first. -/
def request (r : Recorder) (a : Announcement) : Except OperatorError Request :=
  let ns := a.topic.subject.ns.getD "default"
  let body := a.encode r.controller r.instanceName
  if a.series.isSome then Request.merge .events ⟨ns, a.name r.controller⟩ "" body
  else Request.create .events ns body

/-- Remembers what was published, and forgets what is too old. -/
def remember (r : Recorder) (a : Announcement) (now : Timestamp) : Recorder :=
  let others := r.recent.filter fun b => b.topic != a.topic
  { r with recent := (a :: others).filter fun b => decide (now.nanos < b.lastTime.nanos + memory.nanos) }

/-- Publishes an event of a job. It is remembered only if the server accepts it. -/
def publish {σ : Type} [ApiServer σ] (r : Recorder) (job : Job) (severity : Severity)
    (reason note : String) (now : Timestamp) : StateM σ Recorder := do
  let a := r.announcement ⟨job.reference, severity, reason⟩ note now
  match r.request a with
  | .error _ => return r
  | .ok request =>
    let response ← ApiServer.answer request
    return if response.refused then r else r.remember a now

end Recorder

end TrainingJobs
