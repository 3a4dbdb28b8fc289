/-
Expectations: what was asked of the platform and not yet seen to happen.

The operator learns what it created or deleted only when the watch reports it. Until then a look at the store
could count a pod as missing that is on its way, so for every job, replica type and kind of object there is a
record of how many creations and deletions are outstanding, and a replica type is left alone while its record
is open. A record that stays open for longer than the timeout no longer holds anything up.
-/
import TrainingJobs.Dict
import TrainingJobs.Text.Lowercase
import TrainingJobs.Time.Basic

set_option autoImplicit false

namespace TrainingJobs

/-- The kind of object that an expectation counts. -/
inductive Controllee where
  | pods
  | services
  deriving DecidableEq, Repr, Inhabited

/-- What an expectation is about. -/
structure ExpectationKey where
  jobKey : String
  /-- The replica type, in lower case. -/
  replicaType : String
  controllee : Controllee
  deriving DecidableEq, Repr, Inhabited

namespace Controllee

def name : Controllee → String
  | pods => "pods"
  | services => "services"

theorem name_injective {a b : Controllee} (h : a.name = b.name) : a = b := by
  cases a <;> cases b <;> first | rfl | exact absurd h (by decide)

end Controllee

namespace ExpectationKey

/-- The key for a replica type in any spelling. -/
def of (jobKey replicaType : String) (controllee : Controllee) : ExpectationKey :=
  ⟨jobKey, Text.lowercase replicaType, controllee⟩

def render (k : ExpectationKey) : String :=
  k.jobKey ++ "/" ++ k.replicaType ++ "/" ++ k.controllee.name

/-- The name of the kind of object that the key counts. -/
def kindName (k : ExpectationKey) : String := k.controllee.name

/-- Keys are ordered by job, replica type and kind of object. -/
instance : Ord ExpectationKey where
  compare := compareLex (compareOn jobKey) (compareLex (compareOn replicaType) (compareOn kindName))

instance : Std.TransOrd ExpectationKey :=
  inferInstanceAs
    (Std.TransCmp (compareLex (compareOn jobKey) (compareLex (compareOn replicaType) (compareOn kindName))))

instance : Std.LawfulEqOrd ExpectationKey where
  compare_self := Std.ReflCmp.compare_self
  eq_of_compare := by
    intro a b h
    change (compare a.jobKey b.jobKey).then
      ((compare a.replicaType b.replicaType).then (compare a.kindName b.kindName)) = .eq at h
    rw [Ordering.then_eq_eq, Ordering.then_eq_eq] at h
    obtain ⟨h₁, h₂, h₃⟩ := h
    cases a; cases b
    exact congr (congr (congrArg mk (Std.LawfulEqCmp.eq_of_compare h₁)) (Std.LawfulEqCmp.eq_of_compare h₂))
      (Controllee.name_injective (Std.LawfulEqCmp.eq_of_compare h₃))

end ExpectationKey

/-- The creations and deletions that are outstanding under one key. A count may fall below zero when more is
seen than was asked for. -/
structure Expectation where
  /-- Creations not yet seen. -/
  adds : Int
  /-- Deletions not yet seen. -/
  dels : Int
  recordedAt : Timestamp
  deriving DecidableEq, Repr, Inhabited

namespace Expectation

/-- Whether nothing is outstanding (`fulfilled`). -/
def fulfilled (e : Expectation) : Bool := decide (e.adds ≤ 0) && decide (e.dels ≤ 0)

/-- The record with smaller counts. -/
def lower (e : Expectation) (adds dels : Int) : Expectation :=
  { e with adds := e.adds - adds, dels := e.dels - dels }

end Expectation

/-- Whether what was recorded at `recordedAt` has been outstanding for longer than the timeout (`is_expired`). -/
def isExpired (recordedAt now : Timestamp) (timeout : Duration) : Bool :=
  decide (timeout.nanos < (now.since recordedAt).nanos)

/-- All records, and how long one of them holds things up. -/
structure Expectations where
  records : Dict ExpectationKey Expectation := ∅
  timeout : Duration
  deriving DecidableEq, Inhabited

namespace Expectations

/-- How long a record counts unless another time is configured. -/
def defaultTimeout : Duration := .ofSeconds 300

def new (timeout : Duration) : Expectations := { timeout := timeout }

/-- Records what is outstanding from now on, instead of what was (`set_expectations_at`). -/
def set (e : Expectations) (key : ExpectationKey) (adds dels : Int) (now : Timestamp) : Expectations :=
  { e with records := e.records.insert key ⟨adds, dels, now⟩ }

/-- Lowers the counts of a record, if there is one (`lower_expectations`). -/
def lower (e : Expectations) (key : ExpectationKey) (adds dels : Int) : Expectations :=
  { e with records := e.records.modify key fun r => r.lower adds dels }

/-- A creation was seen, or will never happen (`creation_observed`). -/
def creationObserved (e : Expectations) (key : ExpectationKey) : Expectations := e.lower key 1 0

/-- A deletion was seen, or will never happen (`deletion_observed`). -/
def deletionObserved (e : Expectations) (key : ExpectationKey) : Expectations := e.lower key 0 1

/-- Forgets what is outstanding under a key (`delete_expectations`). -/
def delete (e : Expectations) (key : ExpectationKey) : Expectations :=
  { e with records := e.records.erase key }

/-- Forgets what is outstanding for a job, of whatever type and kind (`delete_job`). -/
def deleteJob (e : Expectations) (jobKey : String) : Expectations :=
  { e with records := e.records.filter fun k _ => k.jobKey != jobKey }

/-- Whether nothing under the key holds anything up: there is no record, or nothing is outstanding, or the record has
expired (`satisfied_at`). -/
def satisfied (e : Expectations) (key : ExpectationKey) (now : Timestamp) : Bool :=
  match e.records.get? key with
  | none => true
  | some record => record.fulfilled || isExpired record.recordedAt now e.timeout

/-- How long until the record expires that holds things up under the key, if one does (`pending_at`). -/
def pending (e : Expectations) (key : ExpectationKey) (now : Timestamp) : Option Duration :=
  if e.satisfied key now then none
  else (e.records.get? key).map fun record => e.timeout.minus (now.since record.recordedAt)

def size (e : Expectations) : Nat := e.records.size

end Expectations

end TrainingJobs
